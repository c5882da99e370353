import KubeOverlay.Proofs.ForestChanges
import KubeOverlay.Proofs.Position
import Mathlib.Logic.Relation
/-!
# The documents of a forest

In a sound forest the document of a node is put together from the documents of what it holds
(`Forest.Sound.document_eq`), and reading, listing and climbing come to an end without leaving the
forest. A splice below a node changes the document of every node above it at that one place and no
other document (`Forest.Splice.document_inside`, `Forest.Splice.document_outside`).
-/
namespace KubeOverlay

/-- The document of a node's content, given those of its children. -/
def Content.assemble (read : NodeId → Document) : Content → Document
  | .null => .null
  | .bool b => .bool b
  | .number n => .number n
  | .string s => .string s
  | .slice items => .list (items.map read)
  | .map fields => .map (fields.map fun e => (e.1, read e.2))

theorem Content.assemble_congr {c : Content} {read read' : NodeId → Document}
    (same : ∀ id ∈ c.children, read id = read' id) : c.assemble read = c.assemble read' := by
  cases c with
  | slice items =>
    rw [Forest.children_slice] at same
    exact congrArg Document.list (List.map_congr_left same)
  | map fields =>
    rw [Forest.children_map] at same
    refine congrArg Document.map (List.map_congr_left fun e member => ?_)
    rw [same e.2 (List.mem_map_of_mem member)]
  | _ => rfl

namespace Forest

variable {f g : Forest}

/-! ## Reading to the end -/

theorem documentTo_succ (f : Forest) (depth : Nat) (id : NodeId) :
    f.documentTo (depth + 1) id = (f.content id).assemble (f.documentTo depth) := by
  rw [documentTo]
  cases f.content id <;> rfl

/-- Below a node there are fewer levels than numbers behind its own. -/
theorem Sound.documentTo_stable (shape : f.Sound) (depth id : Nat) (enough : f.size ≤ id + depth) :
    f.documentTo depth id = f.documentTo (depth + 1) id := by
  induction depth generalizing id with
  | zero =>
    have outside : f.size ≤ id := enough
    rw [documentTo_succ, content_outside outside]
    rfl
  | succ depth ih =>
    rw [documentTo_succ, documentTo_succ]
    refine Content.assemble_congr fun c member => ?_
    have behind := (shape.above id c member).1
    exact ih c (by omega)

/-- A document is put together from those of the children. -/
theorem Sound.document_eq (shape : f.Sound) (id : NodeId) :
    f.document id = (f.content id).assemble f.document := by
  rw [document, shape.documentTo_stable f.size id (by omega), documentTo_succ]
  rfl

theorem Sound.descendantsTo_stable (shape : f.Sound) (depth id : Nat) (inside : id < f.size)
    (enough : f.size ≤ id + depth) : f.descendantsTo depth id = f.descendantsTo (depth + 1) id := by
  induction depth generalizing id with
  | zero => omega
  | succ depth ih =>
    rw [descendantsTo, descendantsTo, List.cons.injEq]
    refine ⟨rfl, List.flatMap_congr fun c member => ?_⟩
    have ⟨behind, within⟩ := shape.above id c member
    exact ih c within (by omega)

theorem Sound.descendants_eq (shape : f.Sound) {id : Nat} (inside : id < f.size) :
    f.descendants id = id :: (f.children id).flatMap f.descendants := by
  rw [descendants, shape.descendantsTo_stable f.size id inside (by omega)]
  rfl

/-- The run of a reader that finds every node it comes to and ends with a document. -/
inductive Spells (f : Forest) : NodeId → Document → Prop where
  | node {id : NodeId} {n : Node} (read : NodeId → Document) (there : f.nodes[id]? = some n)
    (below : ∀ c ∈ n.content.children, Spells f c (read c)) : Spells f id (n.content.assemble read)

/-- The run of a traversal that finds every node it comes to and ends with their numbers. -/
inductive Visits (f : Forest) : NodeId → List NodeId → Prop where
  | node {id : NodeId} {n : Node} (visit : NodeId → List NodeId) (there : f.nodes[id]? = some n)
    (below : ∀ c ∈ n.content.children, Visits f c (visit c)) :
    Visits f id (id :: n.content.children.flatMap visit)

/-- The run of a climb along parent links that finds every node it comes to and ends at one that has
no parent. -/
inductive Climbs (f : Forest) : NodeId → List NodeId → Prop where
  | top {id : NodeId} {n : Node} (there : f.nodes[id]? = some n) (root : n.parent = none) : Climbs f id []
  | up {id p : NodeId} {n : Node} {rest : List NodeId} (there : f.nodes[id]? = some n)
    (link : n.parent = some p) (onwards : Climbs f p rest) : Climbs f id (p :: rest)

/-- What holds of a node if it holds of its children holds of all nodes. -/
theorem Sound.bottomUp (shape : f.Sound) {P : Nat → Prop}
    (step : ∀ id : Nat, id < f.size → (∀ c ∈ f.children id, P c) → P id) (id : Nat) (inside : id < f.size) :
    P id := by
  -- The induction is on the numbers behind, as children have greater numbers.
  induction left : f.size - id using Nat.strongRecOn generalizing id with
  | ind left ih =>
    refine step id inside fun c member => ?_
    have ⟨behind, within⟩ := shape.above id c member
    exact ih (f.size - c) (by omega) c within rfl

theorem Sound.spells (shape : f.Sound) {id : Nat} (inside : id < f.size) : f.Spells id (f.document id) := by
  refine shape.bottomUp (P := fun id => f.Spells id (f.document id)) (fun id inside below => ?_) id inside
  obtain ⟨n, there⟩ := node_of_inside inside
  have content : f.content id = n.content := by simp [content, there]
  rw [children_of_node there] at below
  rw [shape.document_eq, content]
  exact .node f.document there below

theorem Sound.visits (shape : f.Sound) {id : Nat} (inside : id < f.size) :
    f.Visits id (f.descendants id) := by
  refine shape.bottomUp (P := fun id => f.Visits id (f.descendants id)) (fun id inside below => ?_) id inside
  obtain ⟨n, there⟩ := node_of_inside inside
  have children := children_of_node there
  rw [children] at below
  rw [shape.descendants_eq inside, children]
  exact .node f.descendants there below

theorem Sound.climbs (shape : f.Sound) {id : Nat} (inside : id < f.size) : ∃ ups, f.Climbs id ups := by
  induction id using Nat.strongRecOn with
  | ind id ih =>
    obtain ⟨n, there⟩ := node_of_inside inside
    cases link : n.parent with
    | none => exact ⟨[], .top there link⟩
    | some p =>
      have less := shape.below id p ((parent?_of_node there).trans link)
      obtain ⟨ups, onwards⟩ := ih p less (Nat.lt_trans less inside)
      exact ⟨p :: ups, .up there link onwards⟩

/-! ## Fresh documents -/

mutual
/-- Where the contents of a forest are those of a layout, its top reads as the document. -/
theorem Sound.document_layout (shape : f.Sound) (start : Nat) (parent : Option NodeId) (d : Document)
    (laid : ∀ m n, nodeAt start (d.layout start parent) m = some n → f.content m = n.content) :
    f.document start = d := by
  rw [Document.layout_eq] at laid
  have top : f.content start = d.contentFrom (start + 1) := laid start _ (nodeAt_cons_iff.mpr (.inl ⟨rfl, rfl⟩))
  have below (m : Nat) (n : Node) (there : nodeAt (start + 1) (d.layoutBelow (start + 1) start) m = some n) :
      f.content m = n.content := laid m n (nodeAt_cons_iff.mpr (.inr there))
  rw [shape.document_eq, top]
  cases d with
  | list items => exact congrArg Document.list (shape.documents_layoutItems (start + 1) start items below)
  | map fields => exact congrArg Document.map (shape.documents_layoutFields (start + 1) start fields below)
  | null | bool _ | number _ | string _ => rfl

theorem Sound.documents_layoutItems (shape : f.Sound) (start parent : Nat) (items : List Document)
    (laid : ∀ m n, nodeAt start (Document.layoutItems start parent items) m = some n → f.content m = n.content) :
    (Document.itemIds start items).map f.document = items := by
  cases items with
  | nil => rfl
  | cons d rest =>
    rw [Document.layoutItems] at laid
    have first := shape.document_layout start (some parent) d fun m n there =>
      laid m n (nodeAt_append_iff.mpr (.inl there))
    have later := shape.documents_layoutItems (start + d.nodeCount) parent rest fun m n there =>
      laid m n (nodeAt_append_iff.mpr (.inr (by rwa [Document.length_layout])))
    rw [Document.itemIds, List.map_cons, first, later]

theorem Sound.documents_layoutFields (shape : f.Sound) (start parent : Nat) (fields : Fields)
    (laid : ∀ m n, nodeAt start (Document.layoutFields start parent fields) m = some n → f.content m = n.content) :
    (Document.fieldIds start fields).map (fun e => (e.1, f.document e.2)) = fields := by
  cases fields with
  | nil => rfl
  | cons e rest =>
    rw [Document.layoutFields] at laid
    have first := shape.document_layout start (some parent) e.2 fun m n there =>
      laid m n (nodeAt_append_iff.mpr (.inl there))
    have later := shape.documents_layoutFields (start + e.2.nodeCount) parent rest fun m n there =>
      laid m n (nodeAt_append_iff.mpr (.inr (by rwa [Document.length_layout])))
    rw [Document.fieldIds, List.map_cons, first, later]
end

/-- The content of a document reads as the document wherever it stands. -/
theorem Sound.assemble_layout (shape : f.Sound) (start parent : Nat) (d : Document)
    (laid : ∀ m n, nodeAt start (d.layoutBelow start parent) m = some n → f.content m = n.content) :
    (d.contentFrom start).assemble f.document = d := by
  cases d with
  | list items => exact congrArg Document.list (shape.documents_layoutItems start parent items laid)
  | map fields => exact congrArg Document.map (shape.documents_layoutFields start parent fields laid)
  | null | bool _ | number _ | string _ => rfl

/-! ## Places -/

/-- The node to which a position leads from a node. -/
def walk? (f : Forest) : Position → NodeId → Option NodeId
  | [], id => some id
  | .key name :: q, id => (f.field? name id).bind (walk? f q)
  | .index i :: q, id => (f.items id)[i]?.bind (walk? f q)

/-- A step of a walk leads to a child, which the rest of it starts from. -/
theorem Sound.walk?_cons (shape : f.Sound) {step : Position.Step} {q : Position} {m n : Nat}
    (led : f.walk? (step :: q) m = some n) : ∃ c, c ∈ f.children m ∧ f.walk? q c = some n := by
  cases step with
  | key name =>
    obtain ⟨c, found, onwards⟩ := Option.bind_eq_some_iff.mp led
    exact ⟨c, (Holds.field (shape.mem_fields_iff.mpr found)).child, onwards⟩
  | index i =>
    obtain ⟨c, found, onwards⟩ := Option.bind_eq_some_iff.mp led
    exact ⟨c, (Holds.item found).child, onwards⟩

/-- Every child is a step away. -/
theorem Sound.exists_step (shape : f.Sound) {m c : Nat} (child : c ∈ f.children m) :
    ∃ step, ∀ q, f.walk? (step :: q) m = f.walk? q c := by
  obtain ⟨slot, holds⟩ := mem_children_iff.mp child
  cases holds with
  | @field key _ stored =>
    refine ⟨.key key, fun q => ?_⟩
    rw [walk?, shape.mem_fields_iff.mp stored, Option.bind_some]
  | @item index _ there =>
    refine ⟨.index index, fun q => ?_⟩
    rw [walk?, there, Option.bind_some]

/-- Numbers do not fall on the way down. -/
theorem Sound.le_of_walk? (shape : f.Sound) {q : Position} {m n : Nat} (led : f.walk? q m = some n) :
    m ≤ n := by
  induction q generalizing m with
  | nil => exact Nat.le_of_eq (Option.some.inj led)
  | cons step q ih =>
    obtain ⟨c, child, onwards⟩ := shape.walk?_cons led
    have := (shape.above m c child).1
    have := ih onwards
    omega

/-- The way down climbed back. -/
theorem Sound.climb_of_walk? (shape : f.Sound) {q : Position} {m n : Nat} (led : f.walk? q m = some n) :
    Relation.ReflTransGen (fun c p => f.parent? c = some p) n m := by
  induction q generalizing m with
  | nil =>
    cases led
    exact .refl
  | cons step q ih =>
    obtain ⟨c, child, onwards⟩ := shape.walk?_cons led
    exact (ih onwards).tail (shape.linked m c child)

/-- A child from which a climb leads to a child of the same container is that child. -/
theorem Sound.eq_of_climb (shape : f.Sound) {m c c' : Nat} (child : c ∈ f.children m)
    (child' : c' ∈ f.children m) (climb : Relation.ReflTransGen (fun c p => f.parent? c = some p) c c') :
    c = c' := by
  rcases climb.cases_head with same | ⟨p, link, onwards⟩
  · exact same
  · have up : p = m := by
      have linked := shape.linked m c child
      rw [link] at linked
      exact Option.some.inj linked
    subst up
    have less : c' ≤ p := by
      clear climb link child child'
      induction onwards with
      | refl => exact Nat.le_refl _
      | tail _ link ih => exact Nat.le_trans (Nat.le_of_lt (shape.below _ _ link)) ih
    have := (shape.above p c' child').1
    omega

/-- Ways to one node go through one child. -/
theorem Sound.child_unique (shape : f.Sound) {q q' : Position} {m n c c' : Nat} (child : c ∈ f.children m)
    (child' : c' ∈ f.children m) (led : f.walk? q c = some n) (led' : f.walk? q' c' = some n) : c = c' := by
  have unique : Relator.RightUnique (fun c p => f.parent? c = some p) := by
    intro c p p' link link'
    rw [link] at link'
    exact Option.some.inj link'
  rcases (shape.climb_of_walk? led).total_of_right_unique unique (shape.climb_of_walk? led') with up | up
  · exact shape.eq_of_climb child child' up
  · exact (shape.eq_of_climb child' child up).symm

end Forest

/-- The document with the part at a position changed. -/
def Document.modify (change : Document → Document) : Position → Document → Document
  | [], d => change d
  | .key name :: q, .map fields => .map (fields.map fun e => if e.1 = name then (e.1, modify change q e.2) else e)
  | .index i :: q, .list items => .list (items.modify i (modify change q))
  | _ :: _, d => d

theorem Document.modify_nil (change : Document → Document) (d : Document) : d.modify change [] = change d := by
  cases d <;> rfl

namespace Forest

variable {f g : Forest}

namespace Splice

variable {n : Nat} {removed strays : List NodeId}

/-- A splice changes no document that it does not lie in. -/
theorem document_outside (splice : Splice f g n removed strays) (shape : f.Sound) {m : Nat} (old : m < f.size)
    (apart : ∀ q, f.walk? q m ≠ some n) : g.document m = f.document m := by
  have after := splice.sound shape
  refine shape.bottomUp (P := fun m => (∀ q, f.walk? q m ≠ some n) → g.document m = f.document m)
    (fun m old ih apart => ?_) m old apart
  have other : m ≠ n := fun same => apart [] (congrArg some same)
  rw [shape.document_eq, after.document_eq, splice.content_old m old other]
  refine Content.assemble_congr fun c child => ih c child fun q led => ?_
  obtain ⟨step, onwards⟩ := shape.exists_step child
  exact apart (step :: q) ((onwards q).trans led)

/-- Beside the way to the place of a splice nothing changes. -/
theorem document_beside (splice : Splice f g n removed strays) (shape : f.Sound) {m c c' : Nat} {q : Position}
    (child : c ∈ f.children m) (led : f.walk? q c = some n) (child' : c' ∈ f.children m) (differ : c' ≠ c) :
    g.document c' = f.document c' := by
  have inside := (shape.above m c' child').2
  exact splice.document_outside shape inside fun q' led' =>
    differ (shape.child_unique child' child led' led)

/-- What a node held reads as before. -/
theorem document_child (splice : Splice f g n removed strays) (shape : f.Sound) {c : Nat}
    (child : c ∈ f.children n) : g.document c = f.document c := by
  have ⟨behind, inside⟩ := shape.above n c child
  refine splice.document_outside shape inside fun q led => ?_
  have := shape.le_of_walk? led
  omega

/-- What has been laid out behind the old nodes reads as its document. -/
theorem document_fresh (splice : Splice f g n removed strays) (shape : f.Sound) (parent : Option NodeId)
    (d : Document) (laid : ∀ m : Nat, f.size ≤ m → g.content m = (f.insert parent d).2.content m) :
    g.document f.size = d := by
  refine (splice.sound shape).document_layout f.size parent d fun m n there => ?_
  rw [laid m (nodeAt_range there).1, content_insert_new there]

/-- A splice changes a document at the place where it lies in it. -/
theorem document_inside (splice : Splice f g n removed strays) (shape : f.Sound) {change : Document → Document}
    (here : g.document n = change (f.document n)) {m : Nat} (old : m < f.size) {q : Position}
    (led : f.walk? q m = some n) : g.document m = (f.document m).modify change q := by
  have after := splice.sound shape
  induction q generalizing m with
  | nil =>
    have same : m = n := Option.some.inj led
    rw [same, Document.modify_nil, here]
  | cons step q ih =>
    cases step with
    | key name =>
      obtain ⟨c, found, onwards⟩ := Option.bind_eq_some_iff.mp led
      have stored := shape.mem_fields_iff.mpr found
      have isMap := map_of_field stored
      have child := (Holds.field stored).child
      have ⟨behind, inside⟩ := shape.above m c child
      have deeper := shape.le_of_walk? onwards
      rw [shape.document_eq m, after.document_eq m, splice.content_old m old (by omega), isMap]
      simp only [Content.assemble, Document.modify, List.map_map, Document.map.injEq]
      refine List.map_congr_left fun e member => ?_
      have child' : e.2 ∈ f.children m := (Holds.field member).child
      by_cases here : e.1 = name
      · have same : e.2 = c := by
          have found' : f.field? e.1 m = some e.2 := shape.mem_fields_iff.mp member
          rw [here, found] at found'
          exact (Option.some.inj found').symm
        simp [here, same, ih inside onwards]
      · have differ : e.2 ≠ c := by
          intro same
          have once := shape.once m
          rw [children, isMap, children_map] at once
          exact here (congrArg Prod.fst (List.inj_on_of_nodup_map once member stored same))
        simp [here, splice.document_beside shape child onwards child' differ]
    | index i =>
      obtain ⟨c, found, onwards⟩ := Option.bind_eq_some_iff.mp led
      have isSlice := slice_of_item found
      have child := (Holds.item found).child
      have ⟨behind, inside⟩ := shape.above m c child
      have deeper := shape.le_of_walk? onwards
      rw [shape.document_eq m, after.document_eq m, splice.content_old m old (by omega), isSlice]
      simp only [Content.assemble, Document.modify, Document.list.injEq]
      refine List.ext_getElem? fun j => ?_
      rw [List.getElem?_map, List.getElem?_modify, List.getElem?_map]
      cases found' : (f.items m)[j]? with
      | none => rfl
      | some c' =>
        have child' := (Holds.item found').child
        by_cases here : i = j
        · subst here
          have same : c' = c := by
            rw [found] at found'
            exact (Option.some.inj found').symm
          simp [same, ih inside onwards]
        · have differ : c' ≠ c := by
            intro same
            have once := shape.once m
            rw [children, isSlice, children_slice] at once
            obtain ⟨within, at_i⟩ := List.getElem?_eq_some_iff.mp found
            obtain ⟨within', at_j⟩ := List.getElem?_eq_some_iff.mp found'
            exact here ((List.Nodup.getElem_inj_iff once).mp (at_i.trans (same.symm.trans at_j.symm)))
          simp [here, splice.document_beside shape child onwards child' differ]

end Splice

end Forest

end KubeOverlay
