import KubeOverlay.Proofs.ForestGrowth
import Mathlib.Data.List.Nodup
import Mathlib.Data.List.Perm.Basic
/-!
# The shape of a forest

In a forest every node is held by at most one container, under which its parent link leads, and
numbers grow from container to child (`Forest.Sound`). A change splices a row of fresh nodes in below
one node (`Forest.Splice`) and keeps the shape (`Forest.Splice.sound`). Giving a node other content is
one, whatever the content is (`Forest.Relinked.splice`).
-/
namespace KubeOverlay

namespace Forest

variable {f g : Forest}

/-! ## Sound forests -/

/-- Every node is held at most once, by the container to which its parent link leads, and its number
is greater than the container's. -/
structure Sound (f : Forest) : Prop where
  once : ∀ p : Nat, (f.children p).Nodup
  linked : ∀ p c : Nat, c ∈ f.children p → f.parent? c = some p
  above : ∀ p c : Nat, c ∈ f.children p → p < c ∧ c < f.size
  below : ∀ c p : Nat, f.parent? c = some p → p < c
  ascending : ∀ p : Nat, Ordered.Ascending (f.fields p)

/-- A node whose parent link leads to a container that does not hold it. -/
def Stray (f : Forest) (id : NodeId) : Prop := ∃ p, f.parent? id = some p ∧ id ∉ f.children p

/-- A row of fresh trees is sound by itself, and parents hold what is in it. -/
theorem Grown.alone {tops : List NodeId} (grown : Grown f g none tops) (empty : f.size = 0) :
    g.Sound ∧ ∀ m, ¬ g.Stray m := by
  have fresh (m : Nat) : f.size ≤ m := by omega
  have held (m p : Nat) (link : g.parent? m = some p) : p < m ∧ m ∈ g.children p := by
    rcases grown.held m p (fresh m) link with ⟨_, none⟩ | ⟨_, less, member⟩
    · contradiction
    · exact ⟨less, member⟩
  refine ⟨⟨?_, ?_, ?_, ?_, ?_⟩, ?_⟩
  · exact fun p => grown.once p (fresh p)
  · exact fun p c member => (grown.child p c (fresh p) member).2.2
  · intro p c member
    have ⟨less, inside, _⟩ := grown.child p c (fresh p) member
    exact ⟨less, inside⟩
  · exact fun c p link => (held c p link).1
  · exact fun p => grown.ascending p (fresh p)
  · rintro m ⟨p, link, absent⟩
    exact absent (held m p link).2

/-- The forest `g` is `f` where the node `n` has other content, some of what it held is detached, and
fresh nodes have been added, of which some have a parent that does not hold them. -/
structure Splice (f g : Forest) (n : Nat) (removed strays : List NodeId) : Prop where
  size_le : f.size ≤ g.size
  content_old : ∀ m : Nat, m < f.size → m ≠ n → g.content m = f.content m
  parent_old : ∀ m : Nat, m < f.size → g.parent? m = if m ∈ removed then none else f.parent? m
  taken : ∀ m : Nat, m ∈ removed → m ∈ f.children n
  kept : ∀ m : Nat, m < f.size → (m ∈ g.children n ↔ m ∈ f.children n ∧ m ∉ removed)
  child : ∀ m c : Nat, m = n ∨ f.size ≤ m → c ∈ g.children m → m < c ∧ c < g.size ∧ g.parent? c = some m
  once : ∀ m : Nat, m = n ∨ f.size ≤ m → (g.children m).Nodup
  ascending : ∀ m : Nat, m = n ∨ f.size ≤ m → Ordered.Ascending (g.fields m)
  fresh : ∀ m p : Nat, f.size ≤ m → g.parent? m = some p → p < m ∧ (m ∈ g.children p ↔ m ∉ strays)
  stray : ∀ m : Nat, m ∈ strays → f.size ≤ m ∧ ∃ p, g.parent? m = some p

namespace Splice

variable {n : Nat} {removed strays : List NodeId}

/-- A splice keeps the shape. -/
theorem sound (splice : Splice f g n removed strays) (shape : f.Sound) : g.Sound := by
  -- Nodes other than `n` hold what they held, and none of that is removed.
  have other (p : Nat) (old : p < f.size) (elsewhere : p ≠ n) : g.children p = f.children p := by
    rw [children, children, splice.content_old p old elsewhere]
  have cases (p : Nat) : (p = n ∨ f.size ≤ p) ∨ (p < f.size ∧ p ≠ n) := by omega
  have child (p c : Nat) (member : c ∈ g.children p) : p < c ∧ c < g.size ∧ g.parent? c = some p := by
    rcases cases p with changed | ⟨old, elsewhere⟩
    · exact splice.child p c changed member
    · rw [other p old elsewhere] at member
      obtain ⟨less, inside⟩ := shape.above p c member
      have link := shape.linked p c member
      have stays : c ∉ removed := by
        intro gone
        have again := shape.linked n c (splice.taken c gone)
        rw [link] at again
        exact elsewhere (Option.some.inj again)
      rw [splice.parent_old c inside, if_neg stays]
      exact ⟨less, Nat.lt_of_lt_of_le inside splice.size_le, link⟩
  refine ⟨?_, fun p c member => (child p c member).2.2, fun p c member => ?_, ?_, ?_⟩
  · intro p
    rcases cases p with changed | ⟨old, elsewhere⟩
    · exact splice.once p changed
    · rw [other p old elsewhere]
      exact shape.once p
  · exact ⟨(child p c member).1, (child p c member).2.1⟩
  · intro c p link
    by_cases old : c < f.size
    · rw [splice.parent_old c old] at link
      split at link
      · contradiction
      · exact shape.below c p link
    · exact (splice.fresh c p (Nat.not_lt.mp old) link).1
  · intro p
    rcases cases p with changed | ⟨old, elsewhere⟩
    · exact splice.ascending p changed
    · rw [fields, splice.content_old p old elsewhere]
      exact shape.ascending p

/-- A splice makes no strays but its own. -/
theorem stray_iff (splice : Splice f g n removed strays) (shape : f.Sound) (m : Nat) :
    g.Stray m ↔ f.Stray m ∨ m ∈ strays := by
  by_cases old : m < f.size
  · have none : m ∉ strays := by
      intro member
      have := (splice.stray m member).1
      omega
    simp only [Stray, none, or_false, splice.parent_old m old]
    by_cases gone : m ∈ removed
    · -- What is removed had a parent that held it, and has none now.
      have held := splice.taken m gone
      have link := shape.linked n m held
      simp [gone, link, held]
    · rw [if_neg gone]
      refine exists_congr fun p => and_congr_right fun link => not_congr ?_
      by_cases here : p = n
      · subst here
        rw [splice.kept m old, and_iff_left gone]
      · have less := shape.below m p link
        rw [children, children, splice.content_old p (by omega) here]
  · have before : ¬ f.Stray m := by
      rintro ⟨p, link, -⟩
      exact old (inside_of_parent link)
    have fresh : f.size ≤ m := by omega
    rw [or_iff_right before]
    constructor
    · rintro ⟨p, link, absent⟩
      by_cases stray : m ∈ strays
      · exact stray
      · exact absurd ((splice.fresh m p fresh link).2.mpr stray) absent
    · intro stray
      obtain ⟨p, link⟩ := (splice.stray m stray).2
      exact ⟨p, link, fun member => (splice.fresh m p fresh link).2.mp member stray⟩

end Splice

/-! ## Giving a node other content -/

/-- The forest `g` is `f` where a node `n` has the content `c`: of what it held, `removed` is detached
and `rest` stays. Between the two stands `f₁`, which is `f` with a fresh row; of its tops, `listed` are
taken up by `n`. -/
structure Relinked (f f₁ g : Forest) (n : Nat) (c : Content) (removed rest listed strays : List NodeId) :
    Prop where
  grown : Grown f f₁ (some n) (listed ++ strays)
  shape : f.Sound
  inside : n < f.size
  size : g.size = f₁.size
  content : ∀ m : Nat, g.content m = if m = n then c else f₁.content m
  parent : ∀ m : Nat, g.parent? m = if m ∈ removed then none else f₁.parent? m
  old : (f.children n).Perm (removed ++ rest)
  new : c.children.Perm (listed ++ rest)
  ascending : Ordered.Ascending c.fields

namespace Relinked

variable {f₁ : Forest} {n : Nat} {c : Content} {removed rest listed strays : List NodeId}

theorem children_here (relinked : Relinked f f₁ g n c removed rest listed strays) :
    g.children n = c.children := by
  rw [children, relinked.content, if_pos rfl]

theorem content_elsewhere (relinked : Relinked f f₁ g n c removed rest listed strays) {m : Nat}
    (other : m ≠ n) : g.content m = f₁.content m := by
  rw [relinked.content, if_neg other]

theorem children_elsewhere (relinked : Relinked f f₁ g n c removed rest listed strays) {m : Nat}
    (other : m ≠ n) : g.children m = f₁.children m := by
  rw [children, children, relinked.content_elsewhere other]

theorem held_of_removed (relinked : Relinked f f₁ g n c removed rest listed strays) {m : Nat}
    (gone : m ∈ removed) : m ∈ f.children n :=
  relinked.old.symm.subset (List.mem_append_left rest gone)

theorem held_of_rest (relinked : Relinked f f₁ g n c removed rest listed strays) {m : Nat}
    (stays : m ∈ rest) : m ∈ f.children n :=
  relinked.old.symm.subset (List.mem_append_right removed stays)

theorem removed_old (relinked : Relinked f f₁ g n c removed rest listed strays) {m : Nat}
    (gone : m ∈ removed) : m < f.size :=
  (relinked.shape.above n m (relinked.held_of_removed gone)).2

theorem rest_old (relinked : Relinked f f₁ g n c removed rest listed strays) {m : Nat}
    (stays : m ∈ rest) : m < f.size :=
  (relinked.shape.above n m (relinked.held_of_rest stays)).2

theorem apart (relinked : Relinked f f₁ g n c removed rest listed strays) {m : Nat}
    (gone : m ∈ removed) : m ∉ rest := by
  have once := relinked.shape.once n
  rw [relinked.old.nodup_iff, List.nodup_append] at once
  exact fun stays => once.2.2 m gone m stays rfl

theorem listed_top (relinked : Relinked f f₁ g n c removed rest listed strays) {m : Nat}
    (member : m ∈ listed) : f.size ≤ m ∧ m < f₁.size ∧ f₁.parent? m = some n :=
  relinked.grown.top m (List.mem_append_left strays member)

theorem stray_top (relinked : Relinked f f₁ g n c removed rest listed strays) {m : Nat}
    (member : m ∈ strays) : f.size ≤ m ∧ m < f₁.size ∧ f₁.parent? m = some n :=
  relinked.grown.top m (List.mem_append_right listed member)

/-- Only old nodes are detached. -/
theorem parent_fresh (relinked : Relinked f f₁ g n c removed rest listed strays) {m : Nat}
    (new : f.size ≤ m) : g.parent? m = f₁.parent? m := by
  have stays : m ∉ removed := fun gone => by
    have := relinked.removed_old gone
    omega
  rw [relinked.parent, if_neg stays]

theorem kept (relinked : Relinked f f₁ g n c removed rest listed strays) {m : Nat} (isOld : m < f.size) :
    m ∈ g.children n ↔ m ∈ f.children n ∧ m ∉ removed := by
  have noTop : m ∉ listed := fun member => by
    have := (relinked.listed_top member).1
    omega
  rw [relinked.children_here, relinked.new.mem_iff, relinked.old.mem_iff, List.mem_append, List.mem_append,
    or_iff_right noTop]
  constructor
  · intro stays
    exact ⟨.inr stays, fun gone => relinked.apart gone stays⟩
  · rintro ⟨gone | stays, notGone⟩
    · contradiction
    · exact stays

theorem child_here (relinked : Relinked f f₁ g n c removed rest listed strays) {m : Nat}
    (member : m ∈ g.children n) : n < m ∧ m < g.size ∧ g.parent? m = some n := by
  have size := relinked.size
  have inside := relinked.inside
  rw [relinked.children_here, relinked.new.mem_iff, List.mem_append] at member
  rcases member with top | stays
  · have ⟨behind, before, link⟩ := relinked.listed_top top
    exact ⟨by omega, by omega, (relinked.parent_fresh behind).trans link⟩
  · have held := relinked.held_of_rest stays
    have less := relinked.shape.above n m held
    have notGone : m ∉ removed := fun gone => relinked.apart gone stays
    have size_le := relinked.grown.size_le
    refine ⟨less.1, by omega, ?_⟩
    rw [relinked.parent, if_neg notGone, relinked.grown.parent_old m less.2]
    exact relinked.shape.linked n m held

theorem once_here (relinked : Relinked f f₁ g n c removed rest listed strays) : (g.children n).Nodup := by
  have once := relinked.shape.once n
  rw [relinked.old.nodup_iff, List.nodup_append] at once
  have distinct := relinked.grown.distinct
  rw [List.nodup_append] at distinct
  rw [relinked.children_here, relinked.new.nodup_iff, List.nodup_append]
  refine ⟨distinct.1, once.2.1, ?_⟩
  intro m top _ stays same
  subst same
  have := (relinked.listed_top top).1
  have := relinked.rest_old stays
  omega

theorem top_held_iff (relinked : Relinked f f₁ g n c removed rest listed strays) {m : Nat}
    (top : m ∈ listed ++ strays) : m ∈ g.children n ↔ m ∉ strays := by
  have behind := (relinked.grown.top m top).1
  have distinct := relinked.grown.distinct
  rw [List.nodup_append] at distinct
  have noRest : m ∉ rest := fun stays => by
    have := relinked.rest_old stays
    omega
  rw [relinked.children_here, relinked.new.mem_iff, List.mem_append, or_iff_left noRest]
  constructor
  · intro member stray
    exact distinct.2.2 m member m stray rfl
  · intro noStray
    rcases List.mem_append.mp top with member | stray
    · exact member
    · contradiction

theorem fresh (relinked : Relinked f f₁ g n c removed rest listed strays) {m p : Nat} (new : f.size ≤ m)
    (link : g.parent? m = some p) : p < m ∧ (m ∈ g.children p ↔ m ∉ strays) := by
  have inside := relinked.inside
  rw [relinked.parent_fresh new] at link
  rcases relinked.grown.held m p new link with ⟨top, isN⟩ | ⟨behind, less, held⟩
  · cases isN
    exact ⟨by omega, relinked.top_held_iff top⟩
  · have noStray : m ∉ strays := fun stray => by
      have above := (relinked.stray_top stray).2.2
      rw [link] at above
      have same : p = n := Option.some.inj above
      omega
    rw [relinked.children_elsewhere (by omega)]
    exact ⟨less, iff_of_true held noStray⟩

theorem splice (relinked : Relinked f f₁ g n c removed rest listed strays) : Splice f g n removed strays where
  size_le := relinked.size ▸ relinked.grown.size_le
  content_old m old other := (relinked.content_elsewhere other).trans (relinked.grown.content_old m old)
  parent_old m old := by rw [relinked.parent, relinked.grown.parent_old m old]
  taken _ gone := relinked.held_of_removed gone
  kept _ old := relinked.kept old
  child m k changed member := by
    rcases changed with rfl | new
    · exact relinked.child_here member
    · have inside := relinked.inside
      rw [relinked.children_elsewhere (by omega)] at member
      have ⟨behind, before, link⟩ := relinked.grown.child m k new member
      exact ⟨behind, relinked.size ▸ before, (relinked.parent_fresh (by omega)).trans link⟩
  once m changed := by
    rcases changed with rfl | new
    · exact relinked.once_here
    · have inside := relinked.inside
      rw [relinked.children_elsewhere (by omega)]
      exact relinked.grown.once m new
  ascending m changed := by
    rcases changed with rfl | new
    · rw [fields, relinked.content, if_pos rfl]
      exact relinked.ascending
    · have inside := relinked.inside
      rw [fields, relinked.content_elsewhere (by omega)]
      exact relinked.grown.ascending m new
  fresh _ _ new link := relinked.fresh new link
  stray m stray :=
    have ⟨behind, _, link⟩ := relinked.stray_top stray
    ⟨behind, n, (relinked.parent_fresh behind).trans link⟩

end Relinked

end Forest

end KubeOverlay
