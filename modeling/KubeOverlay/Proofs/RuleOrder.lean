import KubeOverlay.Proofs.LabelSelectors
/-!
# The order of path rules

Rules act one after the other, and later ones walk through what earlier ones have left. Where the paths of
the rules for a resource are apart, no order of them matters all the same: labels, annotations and prefixes
go in with one order exactly if they do with another, and give the same (`Pass.rules_perm`).
-/
namespace KubeOverlay

theorem PathRule.ApartFor.perm {rules rules' : List PathRule} {type : GroupVersionKind}
    (perm : rules.Perm rules') (apart : ApartFor rules type) : ApartFor rules' type :=
  (perm.filter _).pairwise apart fun {_ _} => .symm

namespace Pass

open PathRule (ApartFor)
open Progress (Yields)
open Relation (Comp)

variable {rules rules' : List PathRule} {g : PathRule → Document → Except BuildError Document}
  {r r' : Resource} {c c' : Collection}

/-- On a resource the rules act in any order. -/
theorem updateAll_perm {type : GroupVersionKind} (perm : rules.Perm rules') (apart : ApartFor rules type)
    (ran : updateAll rules g type r = .done r') : updateAll rules' g type r = .done r' := by
  have swap (a b : PathRule) (s s' : Resource) (apart : a.path.Apart b.path) :
      Comp (Yields (updateAt a (g a))) (Yields (updateAt b (g b))) s s' →
        Comp (Yields (updateAt b (g b))) (Yields (updateAt a (g a))) s s' := updateAt_swap apart
  exact Progress.sequence_perm (fun _ _ => .symm) swap (perm.filter _) apart ran

theorem eachResource_perm (perm : rules.Perm rules') (apart : ∀ id ∈ c.ids, ApartFor rules id.type)
    (ran : eachResource (fun id => updateAll rules g id.type) c = .done c') :
    eachResource (fun id => updateAll rules' g id.type) c = .done c' := by
  refine eachResource_eq_done.mpr ((eachResource_eq_done.mp ran).held.mono fun id r r' ⟨held, done⟩ => ?_)
  exact updateAll_perm perm (apart id (List.mem_map_of_mem (Collection.mem_entries.mpr held))) done

theorem eachResource_perm_iff (perm : rules.Perm rules') (apart : ∀ id ∈ c.ids, ApartFor rules id.type) :
    eachResource (fun id => updateAll rules g id.type) c = .done c' ↔
      eachResource (fun id => updateAll rules' g id.type) c = .done c' :=
  ⟨eachResource_perm perm apart, eachResource_perm perm.symm fun id held => (apart id held).perm perm⟩

/-- Where the paths of the rules for each resource are apart, the rules may be in any order. A pass that puts
entries into maps, or a text before strings, succeeds with one order exactly if it does with another, and
with the same result. -/
theorem rules_perm (perm : rules.Perm rules') (apart : ∀ id ∈ c.ids, ApartFor rules id.type) :
    (∀ name entries c', (mapEntries name entries rules).run c = .done c' ↔
      (mapEntries name entries rules').run c = .done c') ∧
    ∀ text c', (namePrefix text rules).run c = .done c' ↔ (namePrefix text rules').run c = .done c' := by
  constructor
  · intro name entries c'
    simp only [mapEntries]
    split
    · rfl
    · exact eachResource_perm_iff perm apart
  · intro text c'
    simp only [namePrefix]
    split
    · rfl
    · exact eachResource_perm_iff perm apart

/-- A deployment and a service get their labels by the rules of the table from the last to the first. -/
theorem served_reversed : ∃ c', (mapEntries "labels" [("app", "new")] PathRule.labels).run served = .done c' ∧
    (mapEntries "labels" [("app", "new")] PathRule.labels.reverse).run served = .done c' := by
  have unstopped :
      ((mapEntries "labels" [("app", "new")] PathRule.labels).run served).error?.isNone = true := by decide
  have ran := Progress.eq_done (Option.isNone_iff_eq_none.mp unstopped)
  have apart : ∀ id ∈ served.ids, ApartFor PathRule.labels id.type :=
    fun id _ => PathRule.labels_byKind.apartFor id.type
  exact ⟨_, ran, ((rules_perm (List.reverse_perm _).symm apart).1 _ _ _).mp ran⟩

end Pass

end KubeOverlay
