import KubeOverlay.Forest
import KubeOverlay.Proofs.Entries
/-!
# Layouts of documents

The nodes that a document takes are numbered in a row. Nothing in the row points out of it but the
parent of its top (`Row`, `row_layout`): a child stands behind its container, in the row, under the
one container that holds it.
-/
namespace KubeOverlay

/-- The node of a number in a row that starts at a number. -/
def nodeAt (start : Nat) (nodes : List Node) (id : Nat) : Option Node :=
  if start ≤ id then nodes[id - start]? else none

theorem nodeAt_cons_iff {start id : Nat} {first n : Node} {nodes : List Node} :
    nodeAt start (first :: nodes) id = some n ↔
      id = start ∧ n = first ∨ nodeAt (start + 1) nodes id = some n := by
  unfold nodeAt
  by_cases here : id = start
  · subst here
    have before : ¬ id + 1 ≤ id := by omega
    rw [if_pos (Nat.le_refl id), if_neg before]
    simp [eq_comm]
  · by_cases behind : start ≤ id
    · have step : id - start = (id - (start + 1)) + 1 := by omega
      have later : start + 1 ≤ id := by omega
      simp [here, behind, later, step]
    · have before : ¬ start + 1 ≤ id := by omega
      simp [here, behind, before]

theorem nodeAt_append_iff {start id : Nat} {n : Node} {nodes more : List Node} :
    nodeAt start (nodes ++ more) id = some n ↔
      nodeAt start nodes id = some n ∨ nodeAt (start + nodes.length) more id = some n := by
  induction nodes generalizing start with
  | nil => simp [nodeAt]
  | cons first rest ih =>
    have length : start + (first :: rest).length = start + 1 + rest.length := by
      simp only [List.length_cons]
      omega
    rw [List.cons_append, nodeAt_cons_iff, nodeAt_cons_iff, ih, length, or_assoc]

theorem nodeAt_range {start id : Nat} {n : Node} {nodes : List Node}
    (there : nodeAt start nodes id = some n) : start ≤ id ∧ id < start + nodes.length := by
  unfold nodeAt at there
  split at there
  · next behind =>
    have inside := (List.getElem?_eq_some_iff.mp there).1
    omega
  · contradiction

/-- Nodes in a row that are complete below some tops, which have one parent: children stand behind
their containers, and everything but the tops is held. -/
structure Row (start : Nat) (parent : Option NodeId) (tops : List NodeId) (nodes : List Node) :
    Prop where
  distinct : tops.Nodup
  top : ∀ id : Nat, id ∈ tops → ∃ n, nodeAt start nodes id = some n ∧ n.parent = parent
  child : ∀ id n, nodeAt start nodes id = some n → ∀ c : Nat, c ∈ n.content.children →
    id < c ∧ ∃ m, nodeAt start nodes c = some m ∧ m.parent = some id
  once : ∀ id n, nodeAt start nodes id = some n → n.content.children.Nodup
  ascending : ∀ id n, nodeAt start nodes id = some n → Ordered.Ascending n.content.fields
  held : ∀ id n, nodeAt start nodes id = some n → (id ∈ tops ∧ n.parent = parent) ∨
    ∃ (p : Nat) (m : Node), p < id ∧ n.parent = some p ∧ nodeAt start nodes p = some m ∧ id ∈ m.content.children

namespace Row

variable {start : Nat} {parent : Option NodeId} {tops tops' : List NodeId} {nodes more : List Node}

theorem range (row : Row start parent tops nodes) {id : Nat} (top : id ∈ tops) :
    start ≤ id ∧ id < start + nodes.length := by
  obtain ⟨n, there, -⟩ := row.top id top
  exact nodeAt_range there

theorem nil : Row start parent [] [] := by
  refine ⟨.nil, ?_, ?_, ?_, ?_, ?_⟩
  all_goals simp [nodeAt]

theorem append (left : Row start parent tops nodes)
    (right : Row (start + nodes.length) parent tops' more) :
    Row start parent (tops ++ tops') (nodes ++ more) where
  distinct := by
    refine List.nodup_append.mpr ⟨left.distinct, right.distinct, ?_⟩
    intro id inLeft _ inRight same
    subst same
    have := left.range inLeft
    have := right.range inRight
    omega
  top := by
    intro id member
    rcases List.mem_append.mp member with inLeft | inRight
    · obtain ⟨n, there, above⟩ := left.top id inLeft
      exact ⟨n, nodeAt_append_iff.mpr (.inl there), above⟩
    · obtain ⟨n, there, above⟩ := right.top id inRight
      exact ⟨n, nodeAt_append_iff.mpr (.inr there), above⟩
  child := by
    intro id n there c member
    rcases nodeAt_append_iff.mp there with inLeft | inRight
    · obtain ⟨behind, m, there, above⟩ := left.child id n inLeft c member
      exact ⟨behind, m, nodeAt_append_iff.mpr (.inl there), above⟩
    · obtain ⟨behind, m, there, above⟩ := right.child id n inRight c member
      exact ⟨behind, m, nodeAt_append_iff.mpr (.inr there), above⟩
  once := by
    intro id n there
    rcases nodeAt_append_iff.mp there with inLeft | inRight
    · exact left.once id n inLeft
    · exact right.once id n inRight
  ascending := by
    intro id n there
    rcases nodeAt_append_iff.mp there with inLeft | inRight
    · exact left.ascending id n inLeft
    · exact right.ascending id n inRight
  held := by
    intro id n there
    rcases nodeAt_append_iff.mp there with inLeft | inRight
    · rcases left.held id n inLeft with ⟨top, above⟩ | ⟨p, m, before, link, there, listed⟩
      · exact .inl ⟨List.mem_append_left _ top, above⟩
      · exact .inr ⟨p, m, before, link, nodeAt_append_iff.mpr (.inl there), listed⟩
    · rcases right.held id n inRight with ⟨top, above⟩ | ⟨p, m, before, link, there, listed⟩
      · exact .inl ⟨List.mem_append_right _ top, above⟩
      · exact .inr ⟨p, m, before, link, nodeAt_append_iff.mpr (.inr there), listed⟩

/-- A container in front of the row of its children. -/
theorem container {content : Content} (row : Row (start + 1) (some start) tops nodes)
    (children : content.children = tops) (sorted : Ordered.Ascending content.fields) :
    Row start parent [start] (⟨parent, content⟩ :: nodes) where
  distinct := by simp
  top := by
    intro id member
    rw [List.mem_singleton] at member
    exact ⟨_, nodeAt_cons_iff.mpr (.inl ⟨member, rfl⟩), rfl⟩
  child := by
    intro id n there c member
    rcases nodeAt_cons_iff.mp there with ⟨rfl, rfl⟩ | later
    · rw [children] at member
      obtain ⟨m, there, above⟩ := row.top c member
      have := row.range member
      exact ⟨by omega, m, nodeAt_cons_iff.mpr (.inr there), above⟩
    · obtain ⟨behind, m, there, above⟩ := row.child id n later c member
      exact ⟨behind, m, nodeAt_cons_iff.mpr (.inr there), above⟩
  once := by
    intro id n there
    rcases nodeAt_cons_iff.mp there with ⟨rfl, rfl⟩ | later
    · rw [children]
      exact row.distinct
    · exact row.once id n later
  ascending := by
    intro id n there
    rcases nodeAt_cons_iff.mp there with ⟨rfl, rfl⟩ | later
    · exact sorted
    · exact row.ascending id n later
  held := by
    intro id n there
    rcases nodeAt_cons_iff.mp there with ⟨rfl, rfl⟩ | later
    · exact .inl ⟨List.mem_singleton_self _, rfl⟩
    · right
      rcases row.held id n later with ⟨top, above⟩ | ⟨p, m, before, link, there, listed⟩
      · have := row.range top
        refine ⟨start, _, by omega, above, nodeAt_cons_iff.mpr (.inl ⟨rfl, rfl⟩), ?_⟩
        rw [children]
        exact top
      · exact ⟨p, m, before, link, nodeAt_cons_iff.mpr (.inr there), listed⟩

end Row

namespace Document

/-- The content of a node whose descendants are laid out from a number on. -/
def contentFrom (start : NodeId) : Document → Content
  | .null => .null
  | .bool b => .bool b
  | .number n => .number n
  | .string s => .string s
  | .list items => .slice (itemIds start items)
  | .map fields => .map (fieldIds start fields)

/-- The nodes below the top of a document. -/
def layoutBelow (start parent : NodeId) : Document → List Node
  | .list items => layoutItems start parent items
  | .map fields => layoutFields start parent fields
  | _ => []

theorem layout_eq (start : NodeId) (parent : Option NodeId) (d : Document) :
    d.layout start parent = ⟨parent, d.contentFrom (start + 1)⟩ :: d.layoutBelow (start + 1) start := by
  cases d <;> simp [layout, contentFrom, layoutBelow]

theorem nodeCount_pos (d : Document) : 0 < d.nodeCount := by
  cases d with
  | list items =>
    rw [nodeCount]
    omega
  | map fields =>
    rw [nodeCount]
    omega
  | _ => simp [nodeCount]

mutual
theorem length_layout (start : NodeId) (parent : Option NodeId) (d : Document) :
    (d.layout start parent).length = d.nodeCount := by
  cases d with
  | list items => rw [layout, nodeCount, List.length_cons, length_layoutItems, Nat.add_comm]
  | map fields => rw [layout, nodeCount, List.length_cons, length_layoutFields, Nat.add_comm]
  | _ => simp [layout, nodeCount]

theorem length_layoutItems (start parent : NodeId) (items : List Document) :
    (layoutItems start parent items).length = nodeCountItems items := by
  cases items with
  | nil => simp [layoutItems, nodeCountItems]
  | cons d rest =>
    rw [layoutItems, nodeCountItems, List.length_append, length_layout, length_layoutItems]

theorem length_layoutFields (start parent : NodeId) (fields : Fields) :
    (layoutFields start parent fields).length = nodeCountFields fields := by
  cases fields with
  | nil => simp [layoutFields, nodeCountFields]
  | cons e rest =>
    rw [layoutFields, nodeCountFields, List.length_append, length_layout, length_layoutFields]
end

theorem keys_fieldIds (start : NodeId) (fields : Fields) :
    (fieldIds start fields).map (·.1) = fields.map (·.1) := by
  induction fields generalizing start with
  | nil => rfl
  | cons e rest ih => rw [fieldIds, List.map_cons, List.map_cons, ih]

mutual
/-- A document whose keys ascend is laid out in a row below one top. -/
theorem row_layout (start : NodeId) (parent : Option NodeId) (d : Document) (sorted : d.Sorted) :
    Row start parent [start] (d.layout start parent) := by
  cases d with
  | list items =>
    rw [layout]
    refine (row_layoutItems (start + 1) start items (by simpa [Sorted] using sorted)).container ?_ ?_
    · simp [Content.children, Content.fields, Content.items]
    · exact Ordered.ascending_nil
  | map fields =>
    rw [layout]
    have ⟨keys, below⟩ : Ordered.Ascending fields ∧ SortedFields fields := by simpa [Sorted] using sorted
    refine (row_layoutFields (start + 1) start fields below).container ?_ ?_
    · simp [Content.children, Content.fields, Content.items]
    · rw [Ordered.ascending_iff_keys] at keys ⊢
      rwa [Content.fields, keys_fieldIds]
  | null | bool _ | number _ | string _ =>
    rw [layout]
    exact Row.nil.container rfl Ordered.ascending_nil

theorem row_layoutItems (start parent : NodeId) (items : List Document) (sorted : SortedItems items) :
    Row start (some parent) (itemIds start items) (layoutItems start parent items) := by
  cases items with
  | nil =>
    rw [layoutItems, itemIds]
    exact .nil
  | cons d rest =>
    rw [SortedItems] at sorted
    have first := row_layout start (some parent) d sorted.1
    have later := row_layoutItems (start + d.nodeCount) parent rest sorted.2
    rw [layoutItems, itemIds]
    exact first.append (by rwa [length_layout])

theorem row_layoutFields (start parent : NodeId) (fields : Fields) (sorted : SortedFields fields) :
    Row start (some parent) ((fieldIds start fields).map (·.2)) (layoutFields start parent fields) := by
  cases fields with
  | nil =>
    rw [layoutFields, fieldIds]
    exact .nil
  | cons e rest =>
    rw [SortedFields] at sorted
    have first := row_layout start (some parent) e.2 sorted.1
    have later := row_layoutFields (start + e.2.nodeCount) parent rest sorted.2
    rw [layoutFields, fieldIds]
    exact first.append (by rwa [length_layout])
end

end Document

end KubeOverlay
