import KubeOverlay.Proofs.LabelSelectors
/-!
# Entries put in twice

Labels and annotations that are put in after others are put in as if all had come at once, the later ones in
place of the earlier ones under the same keys (`Pass.labels_annotations_compose`). At one path that is so
because entries are stored in any order; over the whole table, because the paths for a kind are apart, so
that the second pass finds at each of them what the first one has left there and nothing else.
-/
namespace KubeOverlay

open Relation (Comp)

/-! ## Steps taken twice -/

namespace Progress

variable {ε σ α : Type} {first second both : α → σ → Progress ε σ} {step : σ → Progress ε σ} {l : List α}

/-- A step that can be swapped with each of a list can be swapped with all. -/
theorem yields_sequence_comm
    (comm : ∀ a ∈ l, Comp (Yields (first a)) (Yields step) = Comp (Yields step) (Yields (first a))) :
    Comp (Yields (sequence first l)) (Yields step) = Comp (Yields step) (Yields (sequence first l)) := by
  induction l with
  | nil =>
    funext s s'
    simp [Comp, Yields, sequence, done]
  | cons a rest ih =>
    obtain ⟨here, later⟩ := List.forall_mem_cons.mp comm
    rw [yields_sequence_cons, Relation.comp_assoc, ih later, ← Relation.comp_assoc, here, Relation.comp_assoc]

/-- Two lists of steps are one list of double steps, if the second step of an element can be swapped with the
first steps of those after it. -/
theorem yields_sequence_comp {R : α → α → Prop} (related : l.Pairwise R)
    (comm : ∀ a b, R a b → Comp (Yields (first b)) (Yields (second a)) = Comp (Yields (second a)) (Yields (first b)))
    (fuse : ∀ a ∈ l, Comp (Yields (first a)) (Yields (second a)) = Yields (both a)) :
    Comp (Yields (sequence first l)) (Yields (sequence second l)) = Yields (sequence both l) := by
  induction l with
  | nil =>
    funext s s'
    simp [Comp, Yields, sequence, done]
  | cons a rest ih =>
    obtain ⟨before, related⟩ := List.pairwise_cons.mp related
    obtain ⟨here, later⟩ := List.forall_mem_cons.mp fuse
    have swap := yields_sequence_comm fun b member => comm a b (before b member)
    calc Comp (Yields (sequence first (a :: rest))) (Yields (sequence second (a :: rest)))
        = Comp (Yields (first a)) (Comp (Comp (Yields (sequence first rest)) (Yields (second a)))
            (Yields (sequence second rest))) := by
          rw [yields_sequence_cons, yields_sequence_cons, Relation.comp_assoc, Relation.comp_assoc]
      _ = Comp (Comp (Yields (first a)) (Yields (second a)))
            (Comp (Yields (sequence first rest)) (Yields (sequence second rest))) := by
          rw [swap, Relation.comp_assoc, Relation.comp_assoc]
      _ = Yields (sequence both (a :: rest)) := by
          rw [here, ih related later, yields_sequence_cons]

end Progress

/-! ## Entries of two maps -/

/-- All entries of two lists; under a key that both have, the second one's. -/
def union (e₁ e₂ : List (String × String)) : List (String × String) :=
  e₂.foldl (fun entries e => Ordered.insert e.1 e.2 entries) e₁

section Union

variable {e₁ e₂ entries : List (String × String)} {key value : String}

theorem union_cons (e : String × String) :
    union e₁ (e :: e₂) = union (Ordered.insert e.1 e.2 e₁) e₂ := rfl

theorem grown_cons (e : String × String) (fields : Fields) :
    grown (e :: entries) fields = grown entries (Ordered.insert e.1 (.string e.2) fields) := rfl

theorem ascending_union (ascending : Ordered.Ascending e₁) : Ordered.Ascending (union e₁ e₂) := by
  induction e₂ generalizing e₁ with
  | nil => exact ascending
  | cons e rest ih => exact ih (Ordered.ascending_insert _ _ _ ascending)

theorem find?_union (ascending : Ordered.Ascending e₂) :
    Ordered.find? key (union e₁ e₂) = (Ordered.find? key e₂).or (Ordered.find? key e₁) := by
  induction e₂ generalizing e₁ with
  | nil => rfl
  | cons e rest ih =>
    have tail := (List.pairwise_cons.mp ascending).2
    rw [union_cons, ih tail, Ordered.find?]
    by_cases same : key = e.1
    · subst same
      rw [Ordered.find?_rest ascending, Ordered.find?_insert_self, if_pos Std.ReflCmp.compare_self]
      rfl
    · rw [Ordered.find?_insert_of_ne _ _ _ _ same, if_neg fun equal => same (Std.LawfulEqCmp.eq_of_compare equal)]

theorem union_self (ascending : Ordered.Ascending entries) : union entries entries = entries :=
  Ordered.eq_of_find? (ascending_union ascending) ascending fun key => by
    rw [find?_union ascending, Option.or_self]

theorem nil_union (ascending : Ordered.Ascending entries) : union [] entries = entries :=
  Ordered.eq_of_find? (ascending_union Ordered.ascending_nil) ascending fun key => by
    rw [find?_union ascending, Ordered.find?, Option.or_none]

theorem union_ne_nil (nonempty : e₂ ≠ []) (ascending : Ordered.Ascending e₂) : union e₁ e₂ ≠ [] := by
  obtain ⟨e, rest, rfl⟩ := List.exists_cons_of_ne_nil nonempty
  intro empty
  have found : Ordered.find? e.1 (union e₁ (e :: rest)) = _ := find?_union ascending
  simp [empty, Ordered.find?, Std.ReflCmp.compare_self] at found

theorem insert_grown {d : Document} {fields : Fields} (free : ∀ e ∈ entries, key ≠ e.1) :
    Ordered.insert key d (grown entries fields) = grown entries (Ordered.insert key d fields) := by
  induction entries generalizing fields with
  | nil => rfl
  | cons e rest ih =>
    obtain ⟨here, later⟩ := List.forall_mem_cons.mp free
    rw [grown_cons, grown_cons, ih later, Ordered.insert_comm here]

/-- An entry put among others is put in after them. -/
theorem grown_insert (ascending : Ordered.Ascending entries) (fields : Fields) :
    grown (Ordered.insert key value entries) fields = Ordered.insert key (.string value) (grown entries fields) := by
  induction entries generalizing fields with
  | nil => rfl
  | cons e rest ih =>
    obtain ⟨above, tail⟩ := List.pairwise_cons.mp ascending
    have differ {k k' : String} (below : compare k k' = .lt) : k ≠ k' := by
      rintro rfl
      simp [Std.ReflCmp.compare_self] at below
    rw [Ordered.insert]
    split
    · next less =>
      refine (insert_grown fun other member => ?_).symm
      rcases List.mem_cons.mp member with rfl | later
      · exact differ less
      · exact differ (Std.TransCmp.lt_trans less (above other later))
    · next same =>
      have equal := Std.LawfulEqCmp.eq_of_compare same
      subst equal
      rw [grown_cons, grown_cons, insert_grown fun other later => differ (above other later),
        Ordered.insert_insert]
    · exact ih tail _

theorem grown_union (ascending : Ordered.Ascending e₁) (fields : Fields) :
    grown (union e₁ e₂) fields = grown e₂ (grown e₁ fields) := by
  induction e₂ generalizing e₁ with
  | nil => rfl
  | cons e rest ih =>
    rw [union_cons, ih (Ordered.ascending_insert _ _ _ ascending), grown_insert ascending, grown_cons]

end Union

/-! ## The passes -/

namespace PathRule

theorem annotations_byKind : ByKind annotations where
  ofKind := by decide
  apart := by decide

end PathRule

namespace Pass

open PathRule (ByKind)
open Progress (Yields)

variable {e₁ e₂ : List (String × String)} {rules : List PathRule} {c c' : Collection}

theorem addEntries_union (ascending : Ordered.Ascending e₁) (rule : PathRule) (d : Document) :
    addEntries e₁ rule d >>= addEntries e₂ rule = addEntries (union e₁ e₂) rule d := by
  have added (fields : Fields) :
      addEntries.added e₂ (grown e₁ fields) = addEntries.added (union e₁ e₂) fields :=
    congrArg Document.map (grown_union ascending fields).symm
  cases d with
  | map fields => exact congrArg Except.ok (added fields)
  | null => exact congrArg Except.ok (added [])
  | _ => rfl

theorem updateAll_union (byKind : ByKind rules) (ascending : Ordered.Ascending e₁) (type : GroupVersionKind) :
    Comp (Yields (updateAll rules (addEntries e₁) type)) (Yields (updateAll rules (addEntries e₂) type)) =
      Yields (updateAll rules (addEntries (union e₁ e₂)) type) := by
  refine Progress.yields_sequence_comp (byKind.apartFor type) ?_ ?_
  · intro a b apart
    exact updateAt_comm apart.symm
  · intro rule member
    have more := (byKind.ofKind rule (List.mem_filter.mp member).1).1
    rw [updateAt_comp_self more]
    simp only [addEntries_union ascending]

theorem eachResource_comp {f g h : Identity → Resource → Progress BuildError Resource}
    (fuse : ∀ id, Comp (Yields (f id)) (Yields (g id)) = Yields (h id)) :
    Comp (Yields (eachResource f)) (Yields (eachResource g)) = Yields (eachResource h) := by
  funext c c'
  simp only [Comp, Yields, eachResource_eq_done, eq_iff_iff]
  refine Collection.pointwise_comp_iff.trans ?_
  have each (id : Identity) : Comp (f id · = .done ·) (g id · = .done ·) = (h id · = .done ·) := fuse id
  simp only [each]

/-- Entries of two maps are put in one after the other as all of them are at once. -/
theorem mapEntries_union {name : String} (byKind : ByKind rules) (ascending : Ordered.Ascending e₁)
    (ascending' : Ordered.Ascending e₂) :
    Comp (Yields (mapEntries name e₁ rules).run) (Yields (mapEntries name e₂ rules).run) =
      Yields (mapEntries name (union e₁ e₂) rules).run := by
  -- Without entries a pass does not even create what is missing, so the rules say nothing about it.
  have idle : Yields (mapEntries name [] rules).run = Eq := by
    funext c c'
    simp [Yields, mapEntries, Progress.done]
  have acts {entries : List (String × String)} (nonempty : entries ≠ []) : (mapEntries name entries rules).run =
      eachResource fun id => updateAll rules (addEntries entries) id.type := by
    funext c
    exact if_neg (by simpa using nonempty)
  by_cases empty : e₁ = []
  · rw [empty, idle, nil_union ascending', Relation.eq_comp]
  by_cases empty' : e₂ = []
  · rw [empty', idle, Relation.comp_eq]
    rfl
  rw [acts empty, acts empty', acts (union_ne_nil empty' ascending')]
  exact eachResource_comp fun id => updateAll_union byKind ascending id.type

theorem run_again {pass : Pass} (twice : Comp (Yields pass.run) (Yields pass.run) = Yields pass.run)
    (ran : pass.run c = .done c') : pass.run c' = .done c' := by
  obtain ⟨between, first, second⟩ : Comp (Yields pass.run) (Yields pass.run) c c' := by rwa [twice]
  cases ran.symm.trans first
  exact second

/-- A pass for labels after another one succeeds exactly if one pass for the labels of both does, with those of
the second under the keys that both have, and it gives the same. A pass that has succeeded changes nothing
when it is run again. The same holds for annotations. -/
theorem labels_annotations_compose (ascending : Ordered.Ascending e₁) (ascending' : Ordered.Ascending e₂)
    (c c' : Collection) :
    ((∃ between, (labels e₁ PathRule.labels).run c = .done between ∧
        (labels e₂ PathRule.labels).run between = .done c') ↔
      (labels (union e₁ e₂) PathRule.labels).run c = .done c') ∧
    ((∃ between, (annotations e₁ PathRule.annotations).run c = .done between ∧
        (annotations e₂ PathRule.annotations).run between = .done c') ↔
      (annotations (union e₁ e₂) PathRule.annotations).run c = .done c') ∧
    ((labels e₁ PathRule.labels).run c = .done c' → (labels e₁ PathRule.labels).run c' = .done c') ∧
    ((annotations e₁ PathRule.annotations).run c = .done c' →
      (annotations e₁ PathRule.annotations).run c' = .done c') := by
  have both (name : String) {rules : List PathRule} (byKind : ByKind rules) :
      Comp (Yields (mapEntries name e₁ rules).run) (Yields (mapEntries name e₂ rules).run) c c' ↔
        (mapEntries name (union e₁ e₂) rules).run c = .done c' := by
    rw [mapEntries_union byKind ascending ascending']
    rfl
  have twice {name : String} {rules : List PathRule} (byKind : ByKind rules) :
      Comp (Yields (mapEntries name e₁ rules).run) (Yields (mapEntries name e₁ rules).run) =
        Yields (mapEntries name e₁ rules).run := by
    rw [mapEntries_union byKind ascending ascending, union_self ascending]
  exact ⟨both "labels" PathRule.labels_byKind, both "annotations" PathRule.annotations_byKind,
    run_again (twice PathRule.labels_byKind), run_again (twice PathRule.annotations_byKind)⟩

/-- A deployment and a service get one label after the other, or both at once. -/
theorem served_twice : ∃ between c', (labels [("app", "new")] PathRule.labels).run served = .done between ∧
    (labels [("app", "newer"), ("tier", "b")] PathRule.labels).run between = .done c' ∧
    (labels [("app", "newer"), ("tier", "b")] PathRule.labels).run served = .done c' := by
  have ascending : Ordered.Ascending [("app", "new")] := by decide
  have ascending' : Ordered.Ascending [("app", "newer"), ("tier", "b")] := by decide
  have unstopped :
      ((labels [("app", "newer"), ("tier", "b")] PathRule.labels).run served).error?.isNone = true := by decide
  have ran := Progress.eq_done (Option.isNone_iff_eq_none.mp unstopped)
  obtain ⟨between, first, second⟩ := (labels_annotations_compose ascending ascending' served _).1.mpr ran
  exact ⟨between, _, first, second, ran⟩

end Pass

end KubeOverlay
