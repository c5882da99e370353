import KubeOverlay.Proofs.Layout
/-!
# Forests that grow

What each change of a node leaves as it was, and what a forest has gained when a document has been laid
out behind its nodes: a row of fresh nodes, complete below its tops (`Forest.Grown`,
`Forest.insert_grown`).
-/
namespace KubeOverlay

namespace Forest

variable {f g : Forest}

/-- What a node holds, in order. -/
def children (f : Forest) (id : NodeId) : List NodeId := (f.content id).children

/-! ## Reading after a change -/

@[simp] theorem size_setContent (id : NodeId) (c : Content) : (f.setContent id c).size = f.size := by
  simp [size, setContent]

@[simp] theorem size_detach (id : NodeId) : (f.detach id).size = f.size := by
  simp [size, detach]

@[simp] theorem size_attach (parent id : NodeId) : (f.attach parent id).size = f.size := by
  simp [size, attach]

theorem content_setContent {id : Nat} (m : Nat) (c : Content) (inside : id < f.size) :
    (f.setContent id c).content m = if m = id then c else f.content m := by
  have there : id < f.nodes.size := inside
  by_cases here : m = id
  · subst here
    simp [content, setContent, Array.getElem_modify, there]
  · simp [content, setContent, Array.getElem?_modify, here, Ne.symm here]

@[simp] theorem parent?_setContent (id m : Nat) (c : Content) :
    (f.setContent id c).parent? m = f.parent? m := by
  simp only [parent?, setContent, Array.getElem?_modify]
  split
  · cases f.nodes[m]? <;> rfl
  · rfl

@[simp] theorem content_detach (id m : Nat) : (f.detach id).content m = f.content m := by
  simp only [content, detach, Array.getElem?_modify]
  split
  · cases f.nodes[m]? <;> rfl
  · rfl

theorem parent?_detach (id m : Nat) :
    (f.detach id).parent? m = if m = id then none else f.parent? m := by
  simp only [parent?, detach, Array.getElem?_modify]
  by_cases here : m = id
  · subst here
    cases f.nodes[m]? <;> simp
  · simp [here, Ne.symm here]

@[simp] theorem content_attach (parent id m : Nat) : (f.attach parent id).content m = f.content m := by
  simp only [content, attach, Array.getElem?_modify]
  split
  · cases f.nodes[m]? <;> rfl
  · rfl

theorem parent?_attach (parent m : Nat) {id : Nat} (inside : id < f.size) :
    (f.attach parent id).parent? m = if m = id then some parent else f.parent? m := by
  have there : id < f.nodes.size := inside
  simp only [parent?, attach, Array.getElem?_modify]
  by_cases here : m = id
  · subst here
    simp [there]
  · simp [here, Ne.symm here]

@[simp] theorem size_detachAll (ids : List NodeId) : (ids.foldl detach f).size = f.size := by
  induction ids generalizing f with
  | nil => rfl
  | cons id rest ih => rw [List.foldl_cons, ih, size_detach]

@[simp] theorem content_detachAll (ids : List NodeId) (m : Nat) :
    (ids.foldl detach f).content m = f.content m := by
  induction ids generalizing f with
  | nil => rfl
  | cons id rest ih => rw [List.foldl_cons, ih, content_detach]

theorem parent?_detachAll (ids : List NodeId) (m : Nat) :
    (ids.foldl detach f).parent? m = if m ∈ ids then none else f.parent? m := by
  induction ids generalizing f with
  | nil => simp
  | cons id rest ih =>
    rw [List.foldl_cons, ih, parent?_detach]
    by_cases first : m = id
    · simp [first]
    · simp [first]

@[simp] theorem size_attachAll (parent : NodeId) (ids : List NodeId) :
    (ids.foldl (attach parent) f).size = f.size := by
  induction ids generalizing f with
  | nil => rfl
  | cons id rest ih => rw [List.foldl_cons, ih, size_attach]

@[simp] theorem content_attachAll (parent : NodeId) (ids : List NodeId) (m : Nat) :
    (ids.foldl (attach parent) f).content m = f.content m := by
  induction ids generalizing f with
  | nil => rfl
  | cons id rest ih => rw [List.foldl_cons, ih, content_attach]

theorem parent?_attachAll (parent m : Nat) (ids : List NodeId)
    (inside : ∀ id : Nat, id ∈ ids → id < f.size) :
    (ids.foldl (attach parent) f).parent? m = if m ∈ ids then some parent else f.parent? m := by
  induction ids generalizing f with
  | nil => simp
  | cons id rest ih =>
    have here : id < f.size := inside id List.mem_cons_self
    rw [List.foldl_cons, ih, parent?_attach parent m here]
    · by_cases first : m = id
      · simp [first]
      · simp [first]
    · intro other later
      rw [size_attach]
      exact inside other (List.mem_cons_of_mem id later)

/-! ## Fresh nodes -/

theorem size_insert (parent : Option NodeId) (d : Document) :
    (f.insert parent d).2.size = f.size + d.nodeCount := by
  simp [size, insert, Document.length_layout]

theorem inside_insert (parent : Option NodeId) (d : Document) {m : Nat} (inside : m < f.size) :
    m < (f.insert parent d).2.size := by
  rw [size_insert]
  exact Nat.lt_add_right _ inside

theorem node_insert_old (parent : Option NodeId) (d : Document) {m : Nat} (old : m < f.size) :
    (f.insert parent d).2.nodes[m]? = f.nodes[m]? := by
  have there : m < f.nodes.size := old
  simp [insert, Array.getElem?_append, there]

theorem node_insert_new (parent : Option NodeId) (d : Document) {m : Nat} (new : f.size ≤ m) :
    (f.insert parent d).2.nodes[m]? = nodeAt f.size (d.layout f.size parent) m := by
  have beyond : ¬ m < f.nodes.size := Nat.not_lt.mpr new
  simp only [insert, Array.getElem?_append, beyond, ↓reduceIte, nodeAt, new, List.getElem?_toArray]
  rfl

theorem content_insert_new {parent : Option NodeId} {d : Document} {m : Nat} {n : Node}
    (there : nodeAt f.size (d.layout f.size parent) m = some n) : (f.insert parent d).2.content m = n.content := by
  have node := (node_insert_new parent d (nodeAt_range there).1).trans there
  rw [content, node]
  rfl

theorem content_insert_old (parent : Option NodeId) (d : Document) {m : Nat} (old : m < f.size) :
    (f.insert parent d).2.content m = f.content m := by
  rw [content, content, node_insert_old parent d old]

theorem parent?_insert_old (parent : Option NodeId) (d : Document) {m : Nat} (old : m < f.size) :
    (f.insert parent d).2.parent? m = f.parent? m := by
  rw [parent?, parent?, node_insert_old parent d old]

/-- The forest `g` is `f` with a row of fresh nodes, whose tops have a parent link. -/
structure Grown (f g : Forest) (parent : Option NodeId) (tops : List NodeId) : Prop where
  size_le : f.size ≤ g.size
  content_old : ∀ m : Nat, m < f.size → g.content m = f.content m
  parent_old : ∀ m : Nat, m < f.size → g.parent? m = f.parent? m
  distinct : tops.Nodup
  top : ∀ m : Nat, m ∈ tops → f.size ≤ m ∧ m < g.size ∧ g.parent? m = parent
  child : ∀ m c : Nat, f.size ≤ m → c ∈ g.children m → m < c ∧ c < g.size ∧ g.parent? c = some m
  once : ∀ m : Nat, f.size ≤ m → (g.children m).Nodup
  ascending : ∀ m : Nat, f.size ≤ m → Ordered.Ascending (g.fields m)
  held : ∀ m p : Nat, f.size ≤ m → g.parent? m = some p →
    (m ∈ tops ∧ parent = some p) ∨ (f.size ≤ p ∧ p < m ∧ m ∈ g.children p)

theorem children_of_node {m : Nat} {n : Node} (there : g.nodes[m]? = some n) :
    g.children m = n.content.children := by
  simp [children, content, there]

theorem fields_of_node {m : Nat} {n : Node} (there : g.nodes[m]? = some n) :
    g.fields m = n.content.fields := by
  simp [fields, content, there]

theorem parent?_of_node {m : Nat} {n : Node} (there : g.nodes[m]? = some n) :
    g.parent? m = n.parent := by
  simp [parent?, there]

theorem node_of_inside {m : Nat} (inside : m < g.size) : ∃ n, g.nodes[m]? = some n :=
  ⟨_, Array.getElem?_eq_getElem inside⟩

theorem outside_of_node {m : Nat} (none : g.nodes[m]? = none) : g.children m = [] ∧ g.fields m = [] := by
  simp [children, fields, content, none, Content.children, Content.fields, Content.items]

theorem node_outside {m : Nat} (outside : g.size ≤ m) : g.nodes[m]? = none := by
  simpa [size] using outside

theorem content_outside {m : Nat} (outside : g.size ≤ m) : g.content m = .null := by
  simp [content, node_outside outside]

theorem inside_of_content {m : Nat} {c : Content} (isC : g.content m = c) (notNull : c ≠ .null) : m < g.size := by
  by_cases inside : m < g.size
  · exact inside
  · rw [content_outside (Nat.not_lt.mp inside)] at isC
    exact absurd isC.symm notNull

theorem inside_of_parent {c p : Nat} (link : g.parent? c = some p) : c < g.size := by
  by_cases inside : c < g.size
  · exact inside
  · simp [parent?, node_outside (Nat.not_lt.mp inside)] at link

theorem Grown.refl (f : Forest) (parent : Option NodeId) : Grown f f parent [] := by
  refine ⟨Nat.le_refl _, fun _ _ => rfl, fun _ _ => rfl, .nil, ?_, ?_, ?_, ?_, ?_⟩
  · intro m member
    contradiction
  · intro m c outside member
    rw [(outside_of_node (node_outside outside)).1] at member
    contradiction
  · intro m outside
    rw [(outside_of_node (node_outside outside)).1]
    exact .nil
  · intro m outside
    rw [(outside_of_node (node_outside outside)).2]
    exact Ordered.ascending_nil
  · intro m p outside link
    have := inside_of_parent link
    omega

theorem insert_grown (f : Forest) (parent : Option NodeId) {d : Document} (sorted : d.Sorted) :
    Grown f (f.insert parent d).2 parent [f.size] := by
  have row := d.row_layout f.size parent sorted
  have length := d.length_layout f.size parent
  have new (m : Nat) (fresh : f.size ≤ m) := node_insert_new (f := f) parent d fresh
  -- A fresh number without a node is beyond the row and holds nothing.
  have nodes (m : Nat) (fresh : f.size ≤ m) :
      (∃ n, nodeAt f.size (d.layout f.size parent) m = some n ∧ (f.insert parent d).2.nodes[m]? = some n) ∨
        (f.insert parent d).2.nodes[m]? = none := by
    cases there : nodeAt f.size (d.layout f.size parent) m with
    | none => exact .inr ((new m fresh).trans there)
    | some n => exact .inl ⟨n, rfl, (new m fresh).trans there⟩
  have size := size_insert (f := f) parent d
  refine ⟨by omega, fun m old => content_insert_old parent d old, fun m old => parent?_insert_old parent d old,
    row.distinct, ?_, ?_, ?_, ?_, ?_⟩
  · intro m member
    obtain ⟨n, there, above⟩ := row.top m member
    have range := nodeAt_range there
    exact ⟨range.1, by omega, by rw [parent?_of_node ((new m range.1).trans there), above]⟩
  · intro m c fresh member
    rcases nodes m fresh with ⟨n, there, node⟩ | outside
    · rw [children_of_node node] at member
      obtain ⟨behind, child, there, above⟩ := row.child m n there c member
      have range := nodeAt_range there
      exact ⟨behind, by omega, by rw [parent?_of_node ((new c range.1).trans there), above]⟩
    · rw [(outside_of_node outside).1] at member
      contradiction
  · intro m fresh
    rcases nodes m fresh with ⟨n, there, node⟩ | outside
    · rw [children_of_node node]
      exact row.once m n there
    · rw [(outside_of_node outside).1]
      exact .nil
  · intro m fresh
    rcases nodes m fresh with ⟨n, there, node⟩ | outside
    · rw [fields_of_node node]
      exact row.ascending m n there
    · rw [(outside_of_node outside).2]
      exact Ordered.ascending_nil
  · intro m p fresh link
    rcases nodes m fresh with ⟨n, there, node⟩ | outside
    · rw [parent?_of_node node] at link
      rcases row.held m n there with ⟨top, above⟩ | ⟨q, holder, before, above, there, listed⟩
      · exact .inl ⟨top, above ▸ link⟩
      · have same : q = p := by simpa [above] using link
        subst same
        have range := nodeAt_range there
        refine .inr ⟨range.1, before, ?_⟩
        rw [children_of_node ((new q range.1).trans there)]
        exact listed
    · simp [parent?, outside] at link

end Forest

end KubeOverlay
