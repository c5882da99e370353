import KubeOverlay.Proofs.Frame
/-!
# The table of references

What the reference pass relies on in its table. The paths of references are apart from those of
names, labels and annotations and from each other, and the pass looks at a path once
(`selectorsAt_cases`): only the role of a role binding is looked up twice, among the roles and then
among the cluster roles.
-/
namespace KubeOverlay

open PathRule (pathsFor ownPaths referencePaths mem_pathsFor)

namespace GroupVersionKind

theorem isSelectedBy_ofKind {kind : String} (named : kind ≠ "") (type : GroupVersionKind) :
    type.isSelectedBy (.ofKind kind) = true ↔ type.kind = kind := by
  simp only [isSelectedBy, ofKind, beq_self_eq_true, Bool.true_or, Bool.true_and, Bool.or_eq_true,
    beq_iff_eq, named, false_or]
  exact eq_comm

end GroupVersionKind

namespace ReferenceRule

/-- The selectors and rules of the table, in the order in which the pass applies them. -/
def lookups : List (GroupVersionKind × PathRule) :=
  references.flatMap fun reference => reference.rules.map (reference.selector, ·)

/-- The lookups in resources of a type. -/
def lookupsFor (type : GroupVersionKind) : List (GroupVersionKind × PathRule) :=
  references.flatMap fun reference =>
    (reference.rules.filter (·.appliesTo type)).map (reference.selector, ·)

/-- What is looked up at a path in resources of a type, in order. -/
def selectorsAt (type : GroupVersionKind) (path : FieldPath) : List GroupVersionKind :=
  ((lookupsFor type).filter (·.2.path = path)).map (·.1)

/-- The table lists a path in resources of a type where resources of a kind are referred to. -/
def Listed (type : GroupVersionKind) (path : FieldPath) (kind : String) : Prop :=
  ∃ reference ∈ references, reference.selector = .ofKind kind ∧ path ∈ pathsFor reference.rules type

/-! ## What the table holds -/

set_option maxRecDepth 1024 in
/-- Every rule of the table is for one kind and refers to one kind, and creates nothing. -/
theorem lookups_ofKind : ∀ e ∈ lookups, (e.1 = .ofKind e.1.kind ∧ e.1.kind ≠ "") ∧ e.2.path ≠ [] ∧
    e.2.create = false ∧
    e.2.selector.any (fun selector => selector = .ofKind selector.kind ∧ selector.kind ≠ "") := by
  decide

theorem lookups_pairwise_apart : lookups.Pairwise fun a b => a.2.selector = b.2.selector →
    FieldPath.Apart a.2.path b.2.path ∨ a.2.path = b.2.path := by
  decide +kernel

set_option maxRecDepth 1024 in
theorem lookups_apart_own : ∀ e ∈ lookups,
    ∀ path ∈ ["metadata", "name"] :: (PathRule.labels ++ PathRule.annotations).map (·.path),
      FieldPath.Apart e.2.path path := by
  decide

/-- Where the role of a role binding stands. -/
def roleOfBinding : PathRule := .ofKind "RoleBinding" ["roleRef", "name"] false

/-- No rule occurs twice, except that of the role of a role binding. -/
theorem lookups_once : ∀ e ∈ lookups,
    (lookups.filter fun other => other.2.selector = e.2.selector ∧ other.2.path = e.2.path).map (·.1) =
      if e.2 = roleOfBinding then [.ofKind "Role", .ofKind "ClusterRole"] else [e.1] := by
  decide +kernel

/-! ## Lookups in resources of a type -/

theorem mem_lookupsFor {type : GroupVersionKind} {e : GroupVersionKind × PathRule} :
    e ∈ lookupsFor type ↔ e ∈ lookups ∧ e.2.appliesTo type := by
  obtain ⟨selector, rule⟩ := e
  simp only [lookupsFor, lookups, List.mem_flatMap, List.mem_map, List.mem_filter, Prod.mk.injEq]
  constructor
  · rintro ⟨reference, member, rule, ⟨inside, applies⟩, rfl, rfl⟩
    exact ⟨⟨reference, member, rule, inside, rfl, rfl⟩, applies⟩
  · rintro ⟨⟨reference, member, rule, inside, rfl, rfl⟩, applies⟩
    exact ⟨reference, member, rule, ⟨inside, applies⟩, rfl, rfl⟩

theorem lookupsFor_eq_filter (type : GroupVersionKind) :
    lookupsFor type = lookups.filter (·.2.appliesTo type) := by
  simp [lookupsFor, lookups, List.filter_flatMap, List.filter_map, Function.comp_def]

theorem mem_referencePaths {type : GroupVersionKind} {path : FieldPath} :
    path ∈ referencePaths type ↔ ∃ e ∈ lookupsFor type, e.2.path = path := by
  simp only [referencePaths, lookupsFor, List.mem_flatMap, mem_pathsFor, List.mem_map, List.mem_filter]
  constructor
  · rintro ⟨reference, member, rule, inside, applies, at_path⟩
    exact ⟨_, ⟨reference, member, rule, ⟨inside, applies⟩, rfl⟩, at_path⟩
  · rintro ⟨_, ⟨reference, member, rule, ⟨inside, applies⟩, rfl⟩, at_path⟩
    exact ⟨reference, member, rule, inside, applies, at_path⟩

theorem mem_selectorsAt {type : GroupVersionKind} {path : FieldPath} {selector : GroupVersionKind} :
    selector ∈ selectorsAt type path ↔
      ∃ reference ∈ references, reference.selector = selector ∧ path ∈ pathsFor reference.rules type := by
  simp only [selectorsAt, lookupsFor, List.mem_map, List.mem_filter, List.mem_flatMap, mem_pathsFor,
    decide_eq_true_eq]
  constructor
  · rintro ⟨_, ⟨⟨reference, member, rule, ⟨inside, applies⟩, rfl⟩, at_path⟩, rfl⟩
    exact ⟨reference, member, rfl, rule, inside, applies, at_path⟩
  · rintro ⟨reference, member, rfl, rule, inside, applies, at_path⟩
    exact ⟨_, ⟨⟨reference, member, rule, ⟨inside, applies⟩, rfl⟩, at_path⟩, rfl⟩

theorem listed_iff {type : GroupVersionKind} {path : FieldPath} {kind : String} :
    Listed type path kind ↔ .ofKind kind ∈ selectorsAt type path :=
  mem_selectorsAt.symm

theorem mem_referencePaths_of_listed {type : GroupVersionKind} {path : FieldPath} {kind : String}
    (listed : Listed type path kind) : path ∈ referencePaths type := by
  obtain ⟨reference, member, -, inside⟩ := listed
  exact List.mem_flatMap.mpr ⟨reference, member, inside⟩

/-- A rule of the table is for exactly the resources of its kind. -/
theorem appliesTo_iff {e : GroupVersionKind × PathRule} (member : e ∈ lookups) (type : GroupVersionKind) :
    e.2.appliesTo type ↔ e.2.selector = some (.ofKind type.kind) := by
  obtain ⟨-, -, -, selected⟩ := lookups_ofKind e member
  obtain ⟨selector, stored, isKind⟩ := Option.any_eq_true _ _ |>.mp selected
  obtain ⟨same, named⟩ : selector = .ofKind selector.kind ∧ selector.kind ≠ "" := by simpa using isKind
  rw [PathRule.appliesTo, stored, Option.all_some, same, GroupVersionKind.isSelectedBy_ofKind named]
  simp [GroupVersionKind.ofKind, eq_comm]

/-- Two paths in resources of one type are the same path or apart. -/
theorem lookupsFor_apart {type : GroupVersionKind} {a b : GroupVersionKind × PathRule}
    (left : a ∈ lookupsFor type) (right : b ∈ lookupsFor type) :
    FieldPath.Apart a.2.path b.2.path ∨ a.2.path = b.2.path := by
  obtain ⟨left, appliesLeft⟩ := mem_lookupsFor.mp left
  obtain ⟨right, appliesRight⟩ := mem_lookupsFor.mp right
  refine lookups_pairwise_apart.forall_of_forall_of_flip (fun _ _ _ => .inr rfl) ?_ left right ?_
  · refine lookups_pairwise_apart.imp fun {x y} related => ?_
    intro (same : y.2.selector = x.2.selector)
    exact (related same.symm).imp FieldPath.Apart.symm Eq.symm
  · rw [(appliesTo_iff left type).mp appliesLeft, (appliesTo_iff right type).mp appliesRight]

/-- A path that is looked at is looked at for one kind, or it is that of the role of a role
binding. -/
theorem selectorsAt_cases {type : GroupVersionKind} {path : FieldPath} {kind : String}
    (listed : Listed type path kind) :
    selectorsAt type path = [.ofKind kind] ∨
      type.kind = "RoleBinding" ∧ path = ["roleRef", "name"] ∧
        selectorsAt type path = [.ofKind "Role", .ofKind "ClusterRole"] := by
  obtain ⟨e, inside, chosen⟩ := List.mem_map.mp (listed_iff.mp listed)
  obtain ⟨applied, at_path⟩ := List.mem_filter.mp inside
  obtain ⟨member, applies⟩ := mem_lookupsFor.mp applied
  have at_path : e.2.path = path := by simpa using at_path
  have selector := (appliesTo_iff member type).mp applies
  have same : selectorsAt type path = (lookups.filter fun other =>
      other.2.selector = e.2.selector ∧ other.2.path = e.2.path).map (·.1) := by
    rw [selectorsAt, lookupsFor_eq_filter, List.filter_filter]
    refine congrArg (List.map _) (List.filter_congr fun other within => ?_)
    have applies' := appliesTo_iff within type
    rw [selector, at_path]
    grind
  rw [same, lookups_once e member]
  split
  · next isRole =>
    refine .inr ⟨?_, ?_, rfl⟩
    · have binding : some (GroupVersionKind.ofKind "RoleBinding") = some (.ofKind type.kind) := by
        rw [← selector, isRole]; rfl
      simpa [GroupVersionKind.ofKind, eq_comm] using binding
    · rw [← at_path, isRole]; rfl
  · exact .inl (by rw [chosen])

/-- The kinds that are referred to have names. -/
theorem listed_named {type : GroupVersionKind} {path : FieldPath} {kind : String}
    (listed : Listed type path kind) : kind ≠ "" := by
  obtain ⟨e, inside, chosen⟩ := List.mem_map.mp (listed_iff.mp listed)
  have named := (lookups_ofKind e (mem_lookupsFor.mp (List.mem_filter.mp inside).1).1).1.2
  rwa [chosen] at named

/-- The role of a role binding is looked up twice. -/
theorem selectorsAt_roleOfBinding {type : GroupVersionKind} {path : FieldPath}
    (binding : type.kind = "RoleBinding") (role : path = ["roleRef", "name"]) :
    selectorsAt type path = [.ofKind "Role", .ofKind "ClusterRole"] := by
  have listed : ∀ kind, (GroupVersionKind.ofKind kind, roleOfBinding) ∈ lookups → Listed type path kind := by
    intro kind member
    have applies : roleOfBinding.appliesTo type := (appliesTo_iff member type).mpr (by rw [binding]; rfl)
    have inside : (GroupVersionKind.ofKind kind, roleOfBinding) ∈
        (lookupsFor type).filter (·.2.path = path) :=
      List.mem_filter.mpr ⟨mem_lookupsFor.mpr ⟨member, applies⟩, by rw [role]; rfl⟩
    exact listed_iff.mpr (List.mem_map_of_mem inside)
  have asRole := listed "Role" (by decide +kernel)
  rcases selectorsAt_cases asRole with one | ⟨-, -, two⟩
  · have asClusterRole := listed_iff.mp (listed "ClusterRole" (by decide +kernel))
    simp [one, GroupVersionKind.ofKind] at asClusterRole
  · exact two

/-- References stand neither at names nor among labels and annotations. -/
theorem referencePaths_apart_own {type : GroupVersionKind} {path own : FieldPath}
    (reference : path ∈ referencePaths type) (member : own ∈ ownPaths type) :
    FieldPath.Apart path own := by
  obtain ⟨e, applied, rfl⟩ := mem_referencePaths.mp reference
  refine lookups_apart_own e (mem_lookupsFor.mp applied).1 own ?_
  simp only [ownPaths, pathsFor, List.cons_append, List.mem_cons, List.mem_append, List.mem_map,
    List.mem_filter] at member ⊢
  grind

end ReferenceRule

end KubeOverlay
