import KubeOverlay.Proofs.Handles
import Mathlib.Data.List.Lex
/-!
# Nodes in pre-order

Below a node of a sound forest every position leads to one node, and every node is led to by one
position. Positions are ordered such that a container comes before what is in it, a field before those
under greater keys, and an element before the later ones (`Position.Precedes`). Listing a node and
everything below it gives each of these nodes once and in this order (`Forest.Sound.preOrder`), however
often the tree has been changed before.
-/
namespace KubeOverlay

/-! ## The order of positions -/

namespace Position

/-- A field comes before those under greater keys, an element before the later ones. -/
def Step.Precedes : Step → Step → Prop
  | .key a, .key b => compare a b = .lt
  | .index i, .index j => i < j
  | _, _ => False

instance : Std.Asymm Step.Precedes where
  asymm a b first second := by
    cases a with
    | key a =>
      cases b with
      | key b =>
        have above : compare a b = .gt := Std.OrientedCmp.gt_of_lt second
        have below : compare a b = .lt := first
        rw [below] at above
        contradiction
      | index j => exact first
    | index i =>
      cases b with
      | key b => exact first
      | index j => exact Nat.lt_asymm first second

/-- Pre-order: what is around something precedes it. -/
def Precedes : Position → Position → Prop := List.Lex Step.Precedes

instance : Std.Asymm Precedes := inferInstanceAs (Std.Asymm (List.Lex Step.Precedes))

theorem precedes_append (q : Position) (step : Step) : q.Precedes (q ++ [step]) := by
  induction q with
  | nil => exact .nil
  | cons first q ih => exact .cons ih

end Position

/-! ## Documents in pre-order -/

namespace Document

mutual
/-- A document and all documents in it in pre-order. -/
def subtrees : Document → List Document
  | .list items => .list items :: subtreesOfItems items
  | .map fields => .map fields :: subtreesOfFields fields
  | d => [d]

def subtreesOfItems : List Document → List Document
  | [] => []
  | d :: rest => subtrees d ++ subtreesOfItems rest

def subtreesOfFields : Fields → List Document
  | [] => []
  | (_, d) :: rest => subtrees d ++ subtreesOfFields rest
end

theorem subtreesOfItems_eq (items : List Document) : subtreesOfItems items = items.flatMap subtrees := by
  induction items with
  | nil => rfl
  | cons d rest ih => rw [subtreesOfItems, ih, List.flatMap_cons]

theorem subtreesOfFields_eq (fields : Fields) : subtreesOfFields fields = fields.flatMap (·.2.subtrees) := by
  induction fields with
  | nil => rfl
  | cons e rest ih => rw [subtreesOfFields, ih, List.flatMap_cons]

end Document

/-- What is in an assembled document are the documents of the children, one after the other. -/
theorem Content.subtrees_assemble (read : NodeId → Document) (c : Content) :
    (c.assemble read).subtrees = c.assemble read :: c.children.flatMap fun id => (read id).subtrees := by
  cases c with
  | slice items =>
    rw [assemble, Document.subtrees, Document.subtreesOfItems_eq, Forest.children_slice, List.flatMap_map]
  | map fields =>
    rw [assemble, Document.subtrees, Document.subtreesOfFields_eq, Forest.children_map, List.flatMap_map,
      List.flatMap_map]
  | _ => rfl

namespace Forest

variable {f : Forest}

/-! ## Steps to children -/

theorem walk?_append (f : Forest) (p q : Position) (m : Nat) :
    f.walk? (p ++ q) m = (f.walk? p m).bind (f.walk? q) := by
  induction p generalizing m with
  | nil => rfl
  | cons step p ih =>
    cases step with
    | key name =>
      rw [List.cons_append, walk?, walk?, Option.bind_assoc]
      apply Option.bind_congr
      intro c _
      exact ih c
    | index i =>
      rw [List.cons_append, walk?, walk?, Option.bind_assoc]
      apply Option.bind_congr
      intro c _
      exact ih c

/-- The slot of a container that a step leads to. -/
def slotOf : Position.Step → Slot
  | .key name => .field name
  | .index i => .item i

theorem slotOf_injective : Function.Injective slotOf := by
  intro a b same
  cases a with
  | key name =>
    cases b with
    | key name' => exact congrArg Position.Step.key (Slot.field.inj same)
    | index i => contradiction
  | index i =>
    cases b with
    | key name => contradiction
    | index j => exact congrArg Position.Step.index (Slot.item.inj same)

theorem Sound.walk?_step_iff (shape : f.Sound) {step : Position.Step} {m c : Nat} :
    f.walk? [step] m = some c ↔ f.Holds m (slotOf step) c := by
  cases step with
  | key name =>
    have found : f.walk? [.key name] m = f.field? name m := by simp [walk?]
    rw [found, ← shape.mem_fields_iff]
    constructor
    · exact .field
    · rintro ⟨stored⟩
      exact stored
  | index i =>
    have found : f.walk? [.index i] m = (f.items m)[i]? := by simp [walk?]
    rw [found]
    constructor
    · exact .item
    · rintro ⟨⟩
      assumption

theorem Sound.child_of_step (shape : f.Sound) {step : Position.Step} {m c : Nat}
    (led : f.walk? [step] m = some c) : c ∈ f.children m :=
  (shape.walk?_step_iff.mp led).child

/-- One step leads to a child. -/
theorem Sound.step_unique (shape : f.Sound) {step step' : Position.Step} {m c : Nat}
    (led : f.walk? [step] m = some c) (led' : f.walk? [step'] m = some c) : step = step' := by
  apply slotOf_injective
  exact shape.slot_unique (shape.walk?_step_iff.mp led) (shape.walk?_step_iff.mp led')

/-- A walk to a node at or below a child goes through this child. -/
theorem Sound.through_child (shape : f.Sound) {step : Position.Step} {q inner : Position} {m c n : Nat}
    (child : c ∈ f.children m) (below : f.walk? inner c = some n) (led : f.walk? (step :: q) m = some n) :
    f.walk? [step] m = some c ∧ f.walk? q c = some n := by
  obtain ⟨c', first, onwards⟩ := Option.bind_eq_some_iff.mp ((walk?_append f [step] q m).symm.trans led)
  have child' := shape.child_of_step first
  have same := shape.child_unique child child' below onwards
  subst same
  exact ⟨first, onwards⟩

/-- The children of a container are listed in the order of the steps to them. -/
theorem Sound.steps_ordered (shape : f.Sound) (m : Nat) :
    (f.children m).Pairwise fun c c' =>
      ∀ step step', f.walk? [step] m = some c → f.walk? [step'] m = some c' → step.Precedes step' := by
  rw [children]
  cases content : f.content m with
  | map entries =>
    have stored {e : String × NodeId} (member : e ∈ entries) : f.walk? [.key e.1] m = some e.2 := by
      apply shape.walk?_step_iff.mpr
      apply Holds.field
      rw [fields, content]
      exact member
    rw [children_map, List.pairwise_map]
    apply (shape.ascending_map content).imp_of_mem
    intro e e' member member' below step step' led led'
    rw [shape.step_unique led (stored member), shape.step_unique led' (stored member')]
    exact below
  | slice held =>
    have there {i : Nat} (inside : i < held.length) : f.walk? [.index i] m = some held[i] := by
      apply shape.walk?_step_iff.mpr
      apply Holds.item
      rw [items, content]
      exact List.getElem?_eq_getElem inside
    rw [children_slice, List.pairwise_iff_getElem]
    intro i j inside inside' before step step' led led'
    rw [shape.step_unique led (there inside), shape.step_unique led' (there inside')]
    exact before
  | _ => exact .nil

/-! ## Listing what is below a node -/

/-- A list of nodes is the pre-order of what is at and below a node. -/
structure PreOrder (f : Forest) (v : NodeId) (listed : List NodeId) : Prop where
  once : listed.Nodup
  /-- The node itself and its descendants are listed. -/
  mem_iff : ∀ c, c ∈ listed ↔ ∃ q, f.walk? q v = some c
  /-- The nodes come in the order of their positions. -/
  ordered : listed.Pairwise fun a b =>
    ∀ p q, f.walk? p v = some a → f.walk? q v = some b → p.Precedes q
  documents : listed.map f.document = (f.document v).subtrees
  /-- All but the node itself are children of what is listed before. -/
  parents : ∀ before c after, listed = before ++ c :: after → c ≠ v →
    ∃ p ∈ before, f.parent? c = some p ∧ c ∈ f.children p

namespace Sound

variable (shape : f.Sound) {v : Nat} (inside : v < f.size)
include shape inside

theorem mem_descendants_iff (c : Nat) : c ∈ f.descendants v ↔ ∃ q, f.walk? q v = some c := by
  refine shape.bottomUp (P := fun v => c ∈ f.descendants v ↔ ∃ q, f.walk? q v = some c)
    (fun v inside below => ?_) v inside
  rw [shape.descendants_eq inside, List.mem_cons, List.mem_flatMap]
  constructor
  · rintro (same | ⟨child, held, deeper⟩)
    · exact ⟨[], congrArg some same.symm⟩
    · obtain ⟨q, led⟩ := (below child held).mp deeper
      obtain ⟨step, onwards⟩ := shape.exists_step held
      exact ⟨step :: q, (onwards q).trans led⟩
  · rintro ⟨q, led⟩
    cases q with
    | nil => exact .inl (Option.some.inj led).symm
    | cons step q =>
      obtain ⟨child, held, onwards⟩ := shape.walk?_cons led
      exact .inr ⟨child, held, (below child held).mpr ⟨q, onwards⟩⟩

omit inside in
/-- What is below a child has a greater number than the container. -/
theorem above_of_mem_descendants {c d : Nat} (child : c ∈ f.children v) (deeper : d ∈ f.descendants c) :
    v < d := by
  have ⟨behind, within⟩ := shape.above v c child
  obtain ⟨q, led⟩ := (shape.mem_descendants_iff within d).mp deeper
  have := shape.le_of_walk? led
  omega

theorem nodup_descendants : (f.descendants v).Nodup := by
  refine shape.bottomUp (P := fun v => (f.descendants v).Nodup) (fun v inside below => ?_) v inside
  rw [shape.descendants_eq inside, List.nodup_cons, List.nodup_flatMap]
  refine ⟨?_, below, ?_⟩
  · intro member
    obtain ⟨c, child, deeper⟩ := List.mem_flatMap.mp member
    exact Nat.lt_irrefl v (shape.above_of_mem_descendants child deeper)
  · apply (shape.once v).imp_of_mem
    intro c c' child child' differ d deeper deeper'
    obtain ⟨q, led⟩ := (shape.mem_descendants_iff (shape.above v c child).2 d).mp deeper
    obtain ⟨q', led'⟩ := (shape.mem_descendants_iff (shape.above v c' child').2 d).mp deeper'
    exact differ (shape.child_unique child child' led led')

theorem descendants_ordered : (f.descendants v).Pairwise fun a b =>
    ∀ p q, f.walk? p v = some a → f.walk? q v = some b → p.Precedes q := by
  refine shape.bottomUp (P := fun v => (f.descendants v).Pairwise fun a b =>
    ∀ p q, f.walk? p v = some a → f.walk? q v = some b → p.Precedes q) (fun v inside below => ?_) v inside
  -- A walk to what is below a child is a step to the child and a walk from there.
  have split {c d : Nat} {q : Position} (child : c ∈ f.children v) (deeper : d ∈ f.descendants c)
      (led : f.walk? q v = some d) :
      ∃ step rest, q = step :: rest ∧ f.walk? [step] v = some c ∧ f.walk? rest c = some d := by
    cases q with
    | nil =>
      have same : v = d := Option.some.inj led
      have := shape.above_of_mem_descendants child deeper
      omega
    | cons step rest =>
      obtain ⟨inner, toD⟩ := (shape.mem_descendants_iff (shape.above v c child).2 d).mp deeper
      have ⟨first, onwards⟩ := shape.through_child child toD led
      exact ⟨step, rest, rfl, first, onwards⟩
  rw [shape.descendants_eq inside, List.pairwise_cons, List.pairwise_flatMap]
  refine ⟨?_, ?_, ?_⟩
  · intro d member p q atTop led
    obtain ⟨c, child, deeper⟩ := List.mem_flatMap.mp member
    obtain ⟨step, rest, rfl, -, -⟩ := split child deeper led
    cases p with
    | nil => exact .nil
    | cons up p =>
      obtain ⟨c', child', onwards⟩ := shape.walk?_cons atTop
      have := (shape.above v c' child').1
      have := shape.le_of_walk? onwards
      omega
  · intro c child
    apply (below c child).imp_of_mem
    intro a b inA inB earlier p q led led'
    obtain ⟨step, rest, rfl, first, onwards⟩ := split child inA led
    obtain ⟨step', rest', rfl, first', onwards'⟩ := split child inB led'
    have same := shape.step_unique first first'
    subst same
    exact .cons (earlier rest rest' onwards onwards')
  · apply (shape.steps_ordered v).imp_of_mem
    intro c c' child child' earlier a inA b inB p q led led'
    obtain ⟨step, rest, rfl, first, -⟩ := split child inA led
    obtain ⟨step', rest', rfl, first', -⟩ := split child' inB led'
    exact .rel (earlier step step' first first')

theorem documents_descendants : (f.descendants v).map f.document = (f.document v).subtrees := by
  refine shape.bottomUp (P := fun v => (f.descendants v).map f.document = (f.document v).subtrees)
    (fun v inside below => ?_) v inside
  rw [shape.descendants_eq inside, List.map_cons, List.map_flatMap, shape.document_eq v,
    Content.subtrees_assemble, ← shape.document_eq v]
  congr 1
  exact List.flatMap_congr below

theorem preOrder : f.PreOrder v (f.descendants v) where
  once := shape.nodup_descendants inside
  mem_iff := shape.mem_descendants_iff inside
  ordered := shape.descendants_ordered inside
  documents := shape.documents_descendants inside
  parents before c after split differs := by
    have member {d : Nat} : d ∈ before ++ c :: after ↔ ∃ q, f.walk? q v = some d := by
      rw [← split]
      exact shape.mem_descendants_iff inside d
    obtain ⟨q, led⟩ := member.mp (List.mem_append_right before List.mem_cons_self)
    -- The last step to the node comes from its container.
    rcases List.eq_nil_or_concat q with rfl | ⟨q, step, rfl⟩
    · exact absurd (Option.some.inj led).symm differs
    rw [List.concat_eq_append] at led
    obtain ⟨p, above, last⟩ := Option.bind_eq_some_iff.mp ((walk?_append f q [step] v).symm.trans led)
    have child := shape.child_of_step last
    refine ⟨p, ?_, shape.linked p c child, child⟩
    rcases List.mem_append.mp (member.mpr ⟨q, above⟩) with earlier | notEarlier
    · exact earlier
    · have ordered := shape.descendants_ordered inside
      rw [split, List.pairwise_append, List.pairwise_cons] at ordered
      rcases List.mem_cons.mp notEarlier with same | later
      · have := (shape.above p c child).1
        omega
      · have reversed := ordered.2.1.1 p later _ q led above
        exact absurd reversed (Std.Asymm.asymm _ _ (Position.precedes_append q step))

end Sound

end Forest

/-! ## The step to all descendants -/

namespace Step

theorem fieldsOf_all (f : Forest) (id : NodeId) : fieldsOf f (.all []) id = (f.fields id).map (·.2) := by
  simp [fieldsOf, Predicate.all]

theorem itemsOf_all (f : Forest) (id : NodeId) : itemsOf f (.all []) id = f.items id := by
  simp [itemsOf, Predicate.all, Predicate.ofCount]

theorem apply_children (f : Forest) (id : NodeId) : Step.children.apply f [id] = f.children id := by
  simp [apply, fieldsOf_all, itemsOf_all, Forest.children, Forest.fields, Forest.items, Content.children]

end Step

namespace Session

/-- In every session, the step to all descendants lists what is at and below a node in pre-order: the
node and then what this step leads to from its children. -/
theorem Reached.all_preOrder {s : Session} (reached : s.Reached) {v : Nat} (inside : v < s.forest.size) :
    s.forest.PreOrder v (Selector.select [.all] s.forest [v]) ∧
    Selector.select [.all] s.forest [v] = v :: Selector.select [.children, .all] s.forest [v] := by
  have shape := reached.invariant.shape
  have listed : Selector.select [.all] s.forest [v] = s.forest.descendants v := List.flatMap_singleton ..
  have further : Selector.select [.children, .all] s.forest [v] =
      (s.forest.children v).flatMap s.forest.descendants := by
    rw [← Step.apply_children]
    rfl
  rw [listed, further]
  exact ⟨shape.preOrder inside, shape.descendants_eq inside⟩

/-- The first field of a map is replaced by a list, so that numbers do not ascend any more. -/
def refilled : Session :=
  ((start (.map [("a", .null), ("b", .null)])).read ⟨0, .map⟩).write ⟨0, .map⟩ (.setField "a" (.list [.bool true]))

theorem refilled_reached : refilled.Reached := by
  have below : compare "a" "b" = .lt := by decide
  have planted : (start (.map [("a", .null), ("b", .null)])).Reached :=
    .start (by simp [Ordered.Ascending, Document.Sorted, Document.SortedFields, below])
  have asMap := planted.read ⟨0, .value⟩ ⟨0, .map⟩ (by decide) (.map rfl)
  exact asMap.write ⟨0, .map⟩ (.setField "a" (.list [.bool true])) (by decide) rfl
    (Write.sorted_of_document? rfl (by simp [Document.Sorted, Document.SortedItems]))

theorem refilled_preOrder : refilled.Reached ∧ 0 < refilled.forest.size ∧
    Selector.select [.all] refilled.forest [0] = [0, 3, 4, 2] ∧
    [0, 3, 4, 2].map refilled.forest.document =
      [.map [("a", .list [.bool true]), ("b", .null)], .list [.bool true], .bool true, .null] ∧
    ∃ p ∈ [0, 3], refilled.forest.parent? 4 = some p ∧ 4 ∈ refilled.forest.children p := by
  have inside : 0 < refilled.forest.size := by decide
  have listed : Selector.select [.all] refilled.forest [0] = [0, 3, 4, 2] := by decide
  have preOrder := (refilled_reached.all_preOrder inside).1
  rw [listed] at preOrder
  exact ⟨refilled_reached, inside, listed, preOrder.documents, preOrder.parents [0, 3] 4 [2] rfl (by decide)⟩

end Session

end KubeOverlay
