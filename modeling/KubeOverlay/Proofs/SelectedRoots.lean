import KubeOverlay.Selector
import Mathlib.Data.List.Perm.Basic
/-!
# Selecting from several roots

A query treats its roots one by one: what it selects from a list of them is what it selects from each
(`Selector.select_append_perm`). Only the order may be another one, and only where a step leads to
children, as these are listed with the fields of all maps before the elements of all slices
(`Selector.select_append`). A step that follows may find its nodes in another order, so steps are first
shown to respect permutations (`Step.apply_perm`).
-/
namespace KubeOverlay

/-! ## Steps -/

namespace Step

variable (f : Forest)

@[simp] theorem apply_nil (step : Step) : step.apply f [] = [] := by
  cases step <;> rfl

/-- Nodes in another order lead to the same nodes in another order. -/
theorem apply_perm {xs ys : List NodeId} (same : xs.Perm ys) (step : Step) :
    (step.apply f xs).Perm (step.apply f ys) := by
  cases step with
  | field name => exact same.flatMap_right (fieldsOf f name)
  | item index => exact same.flatMap_right (itemsOf f index)
  | last => exact same.filterMap _
  | children =>
    have fields := same.flatMap_right (fieldsOf f (.all []))
    have items := same.flatMap_right (itemsOf f (.all []))
    exact fields.append items
  | all => exact same.flatMap_right f.descendants
  | parent => exact same.filterMap f.parent?
  | filter p => exact same.filter _

variable (xs ys : List NodeId)

/-- All steps but the one to the children go through the nodes one by one. -/
theorem apply_append {step : Step} (inOrder : step ≠ .children) :
    step.apply f (xs ++ ys) = step.apply f xs ++ step.apply f ys := by
  cases step with
  | field name => exact List.flatMap_append
  | item index => exact List.flatMap_append
  | last => exact List.filterMap_append
  | children => contradiction
  | all => exact List.flatMap_append
  | parent => exact List.filterMap_append
  | filter p => exact List.filter_append xs ys

/-- The children of the first nodes are torn apart: the fields of the others come before their
elements. -/
theorem apply_append_perm (step : Step) :
    (step.apply f (xs ++ ys)).Perm (step.apply f xs ++ step.apply f ys) := by
  cases step with
  | children =>
    simp only [apply, List.flatMap_append, List.append_assoc]
    apply List.Perm.append_left
    rw [← List.append_assoc, ← List.append_assoc]
    apply List.Perm.append_right
    exact List.perm_append_comm
  | _ => exact .of_eq (apply_append f xs ys (by simp))

end Step

/-! ## Queries -/

namespace Selector

variable (f : Forest)

@[simp] theorem select_cons (step : Step) (s : Selector) (roots : List NodeId) :
    select (step :: s) f roots = s.select f (step.apply f roots) := rfl

theorem select_concat (s : Selector) (step : Step) (roots : List NodeId) :
    select (s ++ [step]) f roots = step.apply f (s.select f roots) := by
  simp [select]

@[simp] theorem select_nil (s : Selector) : s.select f [] = [] := by
  induction s with
  | nil => rfl
  | cons step s ih => rw [select_cons, Step.apply_nil, ih]

/-- Roots in another order give the same results in another order. -/
theorem select_perm (s : Selector) {xs ys : List NodeId} (same : xs.Perm ys) :
    (s.select f xs).Perm (s.select f ys) := by
  induction s generalizing xs ys with
  | nil => exact same
  | cons step s ih => exact ih (step.apply_perm f same)

theorem select_append_perm (s : Selector) (xs ys : List NodeId) :
    (s.select f (xs ++ ys)).Perm (s.select f xs ++ s.select f ys) := by
  induction s generalizing xs ys with
  | nil => exact .refl _
  | cons step s ih =>
    -- The remaining steps start from what the first one leads to, in whatever order.
    have first := select_perm f s (step.apply_append_perm f xs ys)
    exact first.trans (ih (step.apply f xs) (step.apply f ys))

theorem select_append {s : Selector} (inOrder : .children ∉ s) (xs ys : List NodeId) :
    s.select f (xs ++ ys) = s.select f xs ++ s.select f ys := by
  induction s generalizing xs ys with
  | nil => rfl
  | cons step s ih =>
    obtain ⟨first, later⟩ := not_or.mp (mt List.mem_cons.mpr inOrder)
    rw [select_cons, Step.apply_append f xs ys (Ne.symm first)]
    exact ih later (step.apply f xs) (step.apply f ys)

theorem isMet_iff (s : Selector) (v : Value) : s.isMet v ↔ s.select v.forest [v.node] ≠ [] := by
  simp [isMet]

theorem select_ne_nil_iff (s : Selector) (roots : List NodeId) :
    s.select f roots ≠ [] ↔ ∃ root ∈ roots, s.isMet ⟨f, root⟩ := by
  induction roots with
  | nil => simp
  | cons root rest ih =>
    have apart : (s.select f (root :: rest)).Perm (s.select f [root] ++ s.select f rest) :=
      s.select_append_perm f [root] rest
    have empty : s.select f (root :: rest) = [] ↔ s.select f [root] = [] ∧ s.select f rest = [] := by
      rw [← List.append_eq_nil_iff, ← List.perm_nil, apart.congr_left, List.perm_nil]
    rw [ne_eq, empty, Classical.not_and_iff_not_or_not, List.exists_mem_cons_iff, isMet_iff]
    exact or_congr_right ih

/-- The roots of a query are treated independently: the results for two lists of roots together are
those for each, in order unless a step leads to the children, and there are any exactly if one of the
roots meets the query. -/
theorem roots_independent (s : Selector) (xs ys : List NodeId) :
    (s.select f (xs ++ ys)).Perm (s.select f xs ++ s.select f ys) ∧
    (.children ∉ s → s.select f (xs ++ ys) = s.select f xs ++ s.select f ys) ∧
    ∀ roots : List NodeId, s.select f roots ≠ [] ↔ ∃ root ∈ roots, s.isMet ⟨f, root⟩ := by
  refine ⟨s.select_append_perm f xs ys, ?_, s.select_ne_nil_iff f⟩
  intro inOrder
  exact select_append f inOrder xs ys

/-- A list and a map, in trees of their own. -/
def listAndMap : Forest :=
  ((Forest.empty.plant (.list [.bool true, .bool false])).2.plant (.map [("a", .null), ("b", .null)])).2

/-- The children of the map come first, a filter that is itself a query keeps the order. -/
theorem listAndMap_independent :
    (select [.children] listAndMap ([0] ++ [3])).Perm ([1, 2] ++ [4, 5]) ∧
    select [.children] listAndMap ([0] ++ [3]) = [4, 5, 1, 2] ∧
    .children ∉ [Step.all, .filter (isMet [.parent])] ∧
    select [.all, .filter (isMet [.parent])] listAndMap ([0] ++ [3]) = [1, 2] ++ [4, 5] ∧
    ¬ isMet [.field (· == "a")] ⟨listAndMap, 0⟩ ∧ isMet [.field (· == "a")] ⟨listAndMap, 3⟩ ∧
    select [.field (· == "a")] listAndMap [0, 3] ≠ [] := by
  have inOrder : .children ∉ [Step.all, .filter (isMet [.parent])] := by simp
  have met : isMet [.field (· == "a")] ⟨listAndMap, 3⟩ := by decide
  refine ⟨(roots_independent listAndMap [.children] [0] [3]).1, by decide, inOrder, ?_, by decide, met, ?_⟩
  · exact (roots_independent listAndMap [.all, .filter (isMet [.parent])] [0] [3]).2.1 inOrder
  · apply ((roots_independent listAndMap [.field (· == "a")] [] []).2.2 [0, 3]).mpr
    exact ⟨3, by simp, met⟩

end Selector

end KubeOverlay
