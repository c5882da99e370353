import KubeOverlay.Proofs.Handles
/-!
# Changes to trees as changes to documents

A change made through a handle acts on one node (`Write.ActsOn`). In the documents that the node is part
of, it updates the node's document in its place; all other documents stay as they are
(`Session.Reached.write_refines`).
-/
namespace KubeOverlay

/-! ## Updates of documents -/

namespace Document

/-- The updated document. An update that is meant for another shape changes nothing. -/
def Update.apply : Update → Document → Document
  | .put (.field key) d, .map fields => .map (Ordered.insert key d fields)
  | .put (.item index) d, .list items => .list (items.set index d)
  | .drop key, .map fields => .map (Ordered.erase key fields)
  | .push d, .list items => .list (items ++ [d])
  | .become d, _ => d
  | _, d => d

variable {u : Update} {d : Document}

theorem Update.put_field_of_ne {key : String} {stored : Document} (other : d.kind ≠ .map) :
    (Update.put (.field key) stored).apply d = d := by
  cases d with
  | map fields => contradiction
  | _ => rfl

theorem Update.drop_of_ne {key : String} (other : d.kind ≠ .map) : (Update.drop key).apply d = d := by
  cases d with
  | map fields => contradiction
  | _ => rfl

theorem Update.push_of_ne {pushed : Document} (other : d.kind ≠ .slice) : (Update.push pushed).apply d = d := by
  cases d with
  | list items => contradiction
  | _ => rfl

end Document

namespace Forest

variable {f g : Forest} {n : Nat} {d : Document} {key : String} {removed strays : List NodeId}

theorem Sound.kind_document (shape : f.Sound) (id : Nat) : (f.document id).kind = f.kind id := by
  rw [shape.document_eq, kind]
  cases f.content id <;> rfl

/-- The position to which a walk leads holds the document of the node. -/
theorem Sound.at?_of_walk? (shape : f.Sound) {q : Position} {m : Nat} (led : f.walk? q m = some n) :
    (f.document m).at? q = some (f.document n) := by
  induction q generalizing m with
  | nil =>
    cases led
    rw [Document.at?_nil]
  | cons step q ih =>
    cases step with
    | key name =>
      obtain ⟨c, found, onwards⟩ := Option.bind_eq_some_iff.mp led
      have isMap := map_of_field (shape.mem_fields_iff.mpr found)
      have found' : Ordered.find? name (f.fields m) = some c := found
      rw [shape.document_eq, isMap, Content.assemble, Document.at?_key_map, Ordered.find?_map, found']
      exact ih onwards
    | index i =>
      obtain ⟨c, found, onwards⟩ := Option.bind_eq_some_iff.mp led
      rw [shape.document_eq, slice_of_item found, Content.assemble, Document.at?_index_list, List.getElem?_map,
        found]
      exact ih onwards

/-! ## Updates of nodes -/

/-- What a node held still reads as its document says. -/
theorem Splice.document_before (splice : Splice f g n removed strays) (shape : f.Sound) :
    f.document n = (f.content n).assemble g.document := by
  rw [shape.document_eq]
  exact Content.assemble_congr fun c child => (splice.document_child shape child).symm

/-- Where content stays, documents do. -/
theorem Splice.document_same (splice : Splice f g n removed strays) (shape : f.Sound)
    (same : g.content n = f.content n) {m : Nat} (old : m < f.size) : g.document m = f.document m := by
  refine shape.bottomUp (P := fun m => g.document m = f.document m) (fun m old below => ?_) m old
  have content : g.content m = f.content m := by
    by_cases here : m = n
    · rw [here, same]
    · exact splice.content_old m old here
  rw [shape.document_eq, (splice.sound shape).document_eq, content]
  exact Content.assemble_congr below

section Fields

variable {entries : List (String × NodeId)} (shape : f.Sound) (isMap : f.content n = .map entries)
include shape isMap

theorem setField_fresh (sorted : d.Sorted) : (f.setField n key d).2.document f.size = d := by
  refine (setField_splice shape sorted isMap).document_fresh shape (some n) d fun m new => ?_
  have := inside_of_map isMap
  rw [content_setField isMap, if_neg (by omega)]

theorem setField_document (sorted : d.Sorted) :
    (f.setField n key d).2.document n = (Document.Update.put (.field key) d).apply (f.document n) := by
  have splice : Splice f (f.setField n key d).2 n _ _ := setField_splice shape sorted isMap
  rw [splice.document_before shape, isMap, (splice.sound shape).document_eq, content_setField isMap, if_pos rfl]
  simp only [Content.assemble, Document.Update.apply, Ordered.map_insert, setField_fresh shape isMap sorted]

theorem removeField_document :
    (f.removeField n key).2.document n = (Document.Update.drop key).apply (f.document n) := by
  have splice : Splice f (f.removeField n key).2 n _ _ := removeField_splice shape isMap
  rw [splice.document_before shape, isMap, (splice.sound shape).document_eq, content_removeField isMap, if_pos rfl]
  simp only [Content.assemble, Document.Update.apply, Ordered.map_erase]

end Fields

section Items

variable {held : List NodeId} (shape : f.Sound) (isSlice : f.content n = .slice held)
include shape isSlice

theorem replaceItem_fresh {index : Nat} (sorted : d.Sorted) (within : index < held.length) :
    (f.replaceItem n index d).2.document f.size = d := by
  refine (replaceItem_splice shape sorted isSlice within).document_fresh shape (some n) d fun m new => ?_
  have := inside_of_slice isSlice
  rw [content_replaceItem isSlice within, if_neg (by omega)]

theorem replaceItem_document {index : Nat} (sorted : d.Sorted) (within : index < held.length) :
    (f.replaceItem n index d).2.document n = (Document.Update.put (.item index) d).apply (f.document n) := by
  have splice := replaceItem_splice shape sorted isSlice within
  rw [splice.document_before shape, isSlice, (splice.sound shape).document_eq, content_replaceItem isSlice within,
    if_pos rfl]
  simp only [Content.assemble, Document.Update.apply, List.map_set, replaceItem_fresh shape isSlice sorted within]

theorem append_fresh (sorted : d.Sorted) : (f.append n d).2.document f.size = d := by
  refine (append_splice shape sorted isSlice).document_fresh shape (some n) d fun m new => ?_
  have := inside_of_slice isSlice
  rw [content_append isSlice, if_neg (by omega)]

theorem append_document (sorted : d.Sorted) :
    (f.append n d).2.document n = (Document.Update.push d).apply (f.document n) := by
  have splice := append_splice shape sorted isSlice
  rw [splice.document_before shape, isSlice, (splice.sound shape).document_eq, content_append isSlice, if_pos rfl]
  simp only [Content.assemble, Document.Update.apply, List.map_append, List.map_cons, List.map_nil,
    append_fresh shape isSlice sorted]

end Items

theorem overwrite_document (shape : f.Sound) (inside : n < f.size) (sorted : d.Sorted) :
    (f.overwrite n d).document n = d := by
  have after := (overwrite_splice sorted shape inside).sound shape
  -- The row of the document is its top and what is laid out below it.
  have row (m : Nat) (node : Node) (there : m = f.size ∧ node = ⟨none, d.contentFrom (f.size + 1)⟩ ∨
      nodeAt (f.size + 1) (d.layoutBelow (f.size + 1) f.size) m = some node) :
      (f.plant d).2.content m = node.content := by
    refine content_insert_new ?_
    rw [Document.layout_eq, nodeAt_cons_iff]
    exact there
  rw [after.document_eq, content_overwrite sorted inside, if_pos rfl, row f.size _ (.inl ⟨rfl, rfl⟩)]
  refine after.assemble_layout (f.size + 1) f.size d fun m node there => ?_
  have behind := (nodeAt_range there).1
  rw [content_overwrite sorted inside, if_neg (by omega), content_adopted sorted, if_neg (by omega)]
  exact row m node (.inr there)

end Forest

/-! ## Changes through handles -/

namespace Write

variable {f g : Forest} {w : Write} {id n : Nat} {u : Document.Update} {r : Option NodeId}

/-- What a change makes of the documents of a forest: it updates the document of the node that it acts on,
at its position in the documents that it is part of, and no other one. -/
structure Refines (f g : Forest) (id n : NodeId) (w : Write) (u : Document.Update) (r : Option NodeId) :
    Prop where
  inside : ∀ m q, f.walk? q m = some n →
    (f.document m).at? q = some (f.document n) ∧ g.document m = (f.document m).modify u.apply q
  outside : ∀ m < f.size, (∀ q, f.walk? q m ≠ some n) → g.document m = f.document m
  /-- What had been held by the node keeps its document, whether it stays, is replaced or is removed. -/
  held : ∀ c ∈ f.children n, g.document c = f.document c
  brought : ∀ d, w.document? = some d → ∃ c, r = some c ∧ g.document c = d
  removed : ∀ key, w = .removeField key → r = f.field? key id
  missed : w.misses f id → ∀ m < f.size, g.document m = f.document m

theorem Refines.of_splice {removed strays : List NodeId} (splice : Forest.Splice f g n removed strays)
    (shape : f.Sound) (here : n < f.size) (updated : g.document n = u.apply (f.document n))
    (brought : ∀ d, w.document? = some d → ∃ c, r = some c ∧ g.document c = d)
    (removed : ∀ key, w = .removeField key → r = f.field? key id)
    (missed : w.misses f id → g.content n = f.content n) : Refines f g id n w u r where
  inside m q led := by
    have old : m < f.size := Nat.lt_of_le_of_lt (shape.le_of_walk? led) here
    exact ⟨shape.at?_of_walk? led, splice.document_inside shape updated old led⟩
  outside _ old apart := splice.document_outside shape old apart
  held _ child := splice.document_child shape child
  brought := brought
  removed := removed
  missed miss _ old := splice.document_same shape (missed miss) old

variable {d : Document} {key : String}

/-- What a change brings when it returns the first new node. -/
theorem brought_fresh (isFresh : g.document f.size = d) :
    ∀ other, some d = some other → ∃ c, some f.size = some c ∧ g.document c = other := by
  rintro _ ⟨⟩
  exact ⟨f.size, rfl, isFresh⟩

theorem set_refines (shape : f.Sound) (inside : id < f.size) (sorted : d.Sorted) (acts : ActsOn f id (.set d) n u)
    (ran : run f id (.set d) = .ok (r, g)) : Refines f g id n (.set d) u r := by
  cases acts with
  | @held p slot d holds =>
    simp only [run, Forest.set_held shape holds, Except.ok.injEq, Prod.mk.injEq] at ran
    obtain ⟨rfl, rfl⟩ := ran
    cases holds with
    | @field key _ stored =>
      have isMap := Forest.map_of_field stored
      have fresh : (f.setField n key d).2.document f.size = d := Forest.setField_fresh shape isMap sorted
      simp only [Forest.setField_fst]
      exact .of_splice (Forest.setField_splice shape sorted isMap) shape (Forest.inside_of_map isMap)
        (Forest.setField_document shape isMap sorted) (brought_fresh fresh) (by simp) (by simp [misses])
    | item there =>
      have isSlice := Forest.slice_of_item there
      have within := (List.getElem?_eq_some_iff.mp there).1
      have fresh := Forest.replaceItem_fresh shape isSlice sorted within
      simp only [Forest.replaceItem_fst]
      exact .of_splice (Forest.replaceItem_splice shape sorted isSlice within) shape (Forest.inside_of_slice isSlice)
        (Forest.replaceItem_document shape isSlice sorted within) (brought_fresh fresh) (by simp) (by simp [misses])
  | free free =>
    simp only [run, Forest.set_free free, Except.ok.injEq, Prod.mk.injEq] at ran
    obtain ⟨rfl, rfl⟩ := ran
    have becomes := Forest.overwrite_document shape inside sorted
    refine .of_splice (Forest.overwrite_splice sorted shape inside) shape inside becomes ?_ (by simp)
      (by simp [misses])
    rintro _ ⟨⟩
    exact ⟨id, rfl, becomes⟩

theorem setField_refines (shape : f.Sound) (inside : id < f.size) (sorted : d.Sorted)
    (ran : run f id (.setField key d) = .ok (r, g)) :
    Refines f g id id (.setField key d) (.put (.field key) d) r := by
  simp only [run, Except.ok.injEq, Prod.mk.injEq, Forest.setField_fst] at ran
  obtain ⟨rfl, rfl⟩ := ran
  by_cases isMap : f.kind id = .map
  · have content := Forest.map_of_kind isMap
    exact .of_splice (Forest.setField_splice shape sorted content) shape inside
      (Forest.setField_document shape content sorted) (brought_fresh (Forest.setField_fresh shape content sorted))
      (by simp) (by simp [misses, isMap])
  · rw [Forest.setField_stray inside isMap]
    have splice := Forest.insert_splice shape inside sorted
    have same := Forest.content_insert_old (some id) d inside
    have before := splice.document_same shape same inside
    have other : (f.document id).kind ≠ .map := by rwa [shape.kind_document]
    exact .of_splice splice shape inside (before.trans (Document.Update.put_field_of_ne other).symm)
      (brought_fresh (splice.document_fresh shape (some id) d fun _ _ => rfl)) (by simp) (fun _ => same)

theorem removeField_refines (shape : f.Sound) (inside : id < f.size)
    (ran : run f id (.removeField key) = .ok (r, g)) : Refines f g id id (.removeField key) (.drop key) r := by
  have result : (f.removeField id key).1 = r ∧ (f.removeField id key).2 = g := by
    simpa [run, Prod.ext_iff] using ran
  obtain ⟨rfl, rfl⟩ := result
  have removed (key' : String) (same : Write.removeField key = .removeField key') :
      (f.removeField id key).1 = f.field? key' id := by
    cases same
    exact Forest.removeField_fst
  by_cases isMap : f.kind id = .map
  · have content := Forest.map_of_kind isMap
    exact .of_splice (Forest.removeField_splice shape content) shape inside
      (Forest.removeField_document shape content) (by simp [document?]) removed (by simp [misses, isMap])
  · rw [Forest.removeField_stray isMap] at removed ⊢
    have other : (f.document id).kind ≠ .map := by rwa [shape.kind_document]
    exact .of_splice (.refl shape inside) shape inside (Document.Update.drop_of_ne other).symm
      (by simp [document?]) removed (fun _ => rfl)

theorem setItem_refines {index : Nat} (shape : f.Sound) (inside : id < f.size) (sorted : d.Sorted)
    (ran : run f id (.setItem index d) = .ok (r, g)) :
    Refines f g id id (.setItem index d) (.put (.item index) d) r := by
  obtain ⟨within, rfl, rfl⟩ := run_setItem_eq_ok.mp ran
  have isSlice := Forest.slice_of_item (List.getElem?_eq_getElem within)
  have fresh := Forest.replaceItem_fresh shape isSlice sorted within
  simp only [Forest.replaceItem_fst]
  exact .of_splice (Forest.replaceItem_splice shape sorted isSlice within) shape inside
    (Forest.replaceItem_document shape isSlice sorted within) (brought_fresh fresh) (by simp)
    (by simp [misses, Forest.kind, isSlice, Content.kind])

theorem append_refines (shape : f.Sound) (inside : id < f.size) (sorted : d.Sorted)
    (ran : run f id (.append d) = .ok (r, g)) : Refines f g id id (.append d) (.push d) r := by
  simp only [run, Except.ok.injEq, Prod.mk.injEq, Forest.append_fst] at ran
  obtain ⟨rfl, rfl⟩ := ran
  by_cases isSlice : f.kind id = .slice
  · have content := Forest.slice_of_kind isSlice
    exact .of_splice (Forest.append_splice shape sorted content) shape inside
      (Forest.append_document shape content sorted) (brought_fresh (Forest.append_fresh shape content sorted))
      (by simp) (by simp [misses, isSlice])
  · rw [Forest.append_stray inside isSlice]
    have splice := Forest.insert_splice shape inside sorted
    have same := Forest.content_insert_old (some id) d inside
    have before := splice.document_same shape same inside
    have other : (f.document id).kind ≠ .slice := by rwa [shape.kind_document]
    exact .of_splice splice shape inside (before.trans (Document.Update.push_of_ne other).symm)
      (brought_fresh (splice.document_fresh shape (some id) d fun _ _ => rfl)) (by simp) (fun _ => same)

theorem run_refines (shape : f.Sound) (inside : id < f.size) (sorted : w.Sorted) (acts : w.ActsOn f id n u)
    (ran : w.run f id = .ok (r, g)) : Refines f g id n w u r := by
  cases w with
  | set d => exact set_refines shape inside (sorted d rfl) acts ran
  | setField key d =>
    cases acts
    exact setField_refines shape inside (sorted d rfl) ran
  | removeField key =>
    cases acts
    exact removeField_refines shape inside ran
  | setItem index d =>
    cases acts
    exact setItem_refines shape inside (sorted d rfl) ran
  | append d =>
    cases acts
    exact append_refines shape inside (sorted d rfl) ran

end Write

theorem Write.run_eq_error_iff {f : Forest} {id : Nat} {w : Write} {e : OutOfRange} :
    w.run f id = .error e ↔ ∃ index d, w = .setItem index d ∧ (f.items id).length ≤ index ∧
      e = ⟨index, (f.items id).length⟩ := by
  cases w with
  | setItem index d =>
    by_cases within : index < (f.items id).length
    · have notBeyond : ¬ (f.items id).length ≤ index := Nat.not_le.mpr within
      simp [run, Forest.setItem, within, Except.map, notBeyond]
    · have beyond : (f.items id).length ≤ index := Nat.not_lt.mp within
      simp [run, Forest.setItem, within, Except.map, beyond, eq_comm]
  | _ => simp [run]

namespace Session

/-- A change made through a handle acts on one node and updates documents as that node says; only an
index out of range is an error. -/
theorem Reached.write_refines {s : Session} (reached : s.Reached) {h : Handle} (obtained : h ∈ s.handles)
    {w : Write} (sorted : w.Sorted) :
    (∃ n u, w.ActsOn s.forest h.node n u) ∧
    (∀ n u r g, w.ActsOn s.forest h.node n u → w.run s.forest h.node = .ok (r, g) →
      w.Refines s.forest g h.node n u r) ∧
    ∀ e, w.run s.forest h.node = .error e ↔ ∃ index d, w = .setItem index d ∧
      (s.forest.items h.node).length ≤ index ∧ e = ⟨index, (s.forest.items h.node).length⟩ := by
  have inv := reached.invariant
  refine ⟨w.exists_actsOn s.forest h.node, ?_, fun e => Write.run_eq_error_iff⟩
  intro n u r g acts ran
  exact w.run_refines inv.shape (inv.inside h obtained) sorted acts ran

theorem nested_write_refines : nested.Reached ∧ ⟨1, .map⟩ ∈ nested.handles ∧
    (Write.setField "b" (.bool true)).Sorted ∧
    ∃ g, (Write.setField "b" (.bool true)).run nested.forest 1 = .ok (some 3, g) ∧
      g.document 0 = .map [("a", .map [("b", .bool true)])] ∧ g.document 2 = .null := by
  have sorted : (Write.setField "b" (.bool true)).Sorted := Write.sorted_of_document? rfl trivial
  have obtained : (⟨1, .map⟩ : Handle) ∈ nested.handles := by decide
  have refines := (nested_reached.write_refines obtained sorted).2.1 1 _ (some 3) _ .setField rfl
  exact ⟨nested_reached, obtained, sorted, _, rfl, (refines.inside 0 [.key "a"] rfl).2,
    refines.held 2 (by decide)⟩

end Session

end KubeOverlay
