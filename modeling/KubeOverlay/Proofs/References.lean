import KubeOverlay.Proofs.ReferenceTable
/-!
# Resolving references

What the reference pass makes of one reference (`nameReference_at`): the name that stands there is
looked up among the declared names, once for each kind that the table lists for the place, and what
one look-up finds is what the next one looks up. So a reference is resolved in one step, but for the
role of a role binding, where the current name of a role may be the declared name of a cluster role
(`resolvedInOneStep_iff`).
-/
namespace KubeOverlay

open PathRule (referencePaths)
open ReferenceRule (references lookupsFor selectorsAt Listed)

/-! ## Declared names -/

/-- The resource under a key of a kind and a declared name has a current name. -/
def Collection.Declares (c : Collection) (kind declared : String) (id : Identity) (current : String) :
    Prop :=
  id.type.kind = kind ∧ id.name = declared ∧ ∃ r, c.find? id = some r ∧ r.name? = some current

namespace Pass

theorem mem_namedResources {c : Collection} {id : Identity} {current : String} :
    (id, current) ∈ namedResources c ↔ ∃ r, c.find? id = some r ∧ r.name? = some current := by
  simp only [namedResources, List.mem_filterMap, Option.map_eq_some_iff, Prod.mk.injEq]
  constructor
  · rintro ⟨⟨id, r⟩, member, current, name, rfl, rfl⟩
    exact ⟨r, Collection.mem_entries.mp member, name⟩
  · rintro ⟨r, held, name⟩
    exact ⟨(id, r), Collection.mem_entries.mpr held, current, name, rfl, rfl⟩

/-- What is selected and declared under a name. -/
theorem mem_candidates {c : Collection} {kind declared : String} (named : kind ≠ "") {id : Identity}
    {current : String} :
    (id, current) ∈ (namedResources c).filter
        (fun t => t.1.name == declared && t.1.type.isSelectedBy (.ofKind kind)) ↔
      c.Declares kind declared id current := by
  simp only [List.mem_filter, mem_namedResources, Bool.and_eq_true, beq_iff_eq,
    GroupVersionKind.isSelectedBy_ofKind named, Collection.Declares]
  constructor
  · rintro ⟨held, name, isKind⟩
    exact ⟨isKind, name, held⟩
  · rintro ⟨isKind, name, held⟩
    exact ⟨held, name, isKind⟩

/-- A look-up finds the one resource that is declared, or leaves the name if there is none. -/
theorem resolve_eq_ok {c : Collection} {kind declared found : String} (named : kind ≠ "")
    (ran : resolve (namedResources c) (.ofKind kind) declared = .ok found) :
    (∃ id, c.Declares kind declared id found ∧
        ∀ other current, c.Declares kind declared other current → other = id ∧ current = found) ∨
      found = declared ∧ ∀ id current, ¬ c.Declares kind declared id current := by
  rw [resolve] at ran
  split at ran
  · next none =>
    cases ran
    refine .inr ⟨rfl, fun id current declares => ?_⟩
    have member := (mem_candidates named).mpr declares
    rw [none] at member
    exact absurd member List.not_mem_nil
  · next id current one =>
    cases ran
    refine .inl ⟨id, (mem_candidates named).mp (by rw [one]; exact List.mem_singleton_self _), ?_⟩
    intro other current' declares
    have member := (mem_candidates named).mpr declares
    rw [one] at member
    exact Prod.mk.inj (List.mem_singleton.mp member)
  · contradiction

/-! ## One rule -/

/-- An edit of strings that nothing stopped has edited the string at a position of its path. -/
theorem updateAt_onString {rule : PathRule} {f : String → Except BuildError String} {r r' : Resource}
    (ran : updateAt rule (onString f rule) r = .done r') (leads : rule.path ≠ []) {q : Position}
    (along : q.keys = rule.path) {text : String} (held : r.object.at? q = some (.string text)) :
    ∃ text', f text = .ok text' ∧ r'.object.at? q = some (.string text') := by
  obtain ⟨fields, fields', object, rfl, done⟩ := updateAt_eq_done ran
  obtain ⟨key, rest, path⟩ := List.exists_cons_of_ne_nil leads
  rw [path] at done
  rw [object] at held
  obtain ⟨leaf, inner, before, after, s, s', split, indices, found, edited, stored⟩ :=
    FieldPath.editFrom_leaf (along.trans path) (congrArg Progress.error? done) held
  rw [congrArg Progress.reached done] at stored
  rw [split, Document.at?_append, found, Option.bind_some] at held
  rw [chain_pure] at edited
  obtain ⟨text', text'', rfl, applied, rfl⟩ := onString_eq_ok.mp (Prod.mk.inj edited).1
  cases inner with
  | nil =>
    rw [List.append_nil] at split
    subst split
    obtain rfl : text' = text := by simpa using held
    exact ⟨text'', applied, stored⟩
  | cons step inner => simp [Document.at?] at held

/-! ## The whole pass -/

/-- The rules of a type in order, each with what it looks up, resolve the name at a position where
their paths are that of the position or apart from it. -/
theorem lookups_at {targets : List (Identity × String)} {l : List (GroupVersionKind × PathRule)}
    {q : Position} (leads : ∀ e ∈ l, e.2.path ≠ [])
    (apart : ∀ e ∈ l, FieldPath.Apart e.2.path q.keys ∨ e.2.path = q.keys) {r r' : Resource}
    (ran : Progress.sequence (fun e => updateAt e.2 (onString (resolve targets e.1) e.2)) l r = .done r')
    {text : String} (held : r.object.at? q = some (.string text)) :
    ∃ text', ((l.filter (·.2.path = q.keys)).map (·.1)).foldlM
        (fun name selector => resolve targets selector name) text = .ok text' ∧
      r'.object.at? q = some (.string text') := by
  induction l generalizing r text with
  | nil =>
    cases ran
    exact ⟨text, rfl, held⟩
  | cons e rest ih =>
    obtain ⟨between, here, later⟩ := Progress.sequence_cons_eq_done.mp ran
    have onwards (name : String) (stored : between.object.at? q = some (.string name)) :=
      ih (fun other member => leads other (List.mem_cons_of_mem e member))
        (fun other member => apart other (List.mem_cons_of_mem e member)) later stored
    rcases apart e List.mem_cons_self with away | same
    · have kept := (updateAt_kept e.2 (onString (resolve targets e.1) e.2) r).at? q
        (fun path single => by rw [List.mem_singleton.mp single]; exact away)
      rw [here] at kept
      have differ : e.2.path ≠ q.keys := by
        intro same
        rw [same] at away
        exact away.1 (List.prefix_refl _)
      rw [List.filter_cons_of_neg (by simpa using differ)]
      exact onwards text (kept.trans held)
    · obtain ⟨text', found, stored⟩ :=
        updateAt_onString here (leads e List.mem_cons_self) same.symm held
      obtain ⟨text'', resolved, final⟩ := onwards text' stored
      rw [List.filter_cons_of_pos (by simpa using same), List.map_cons, List.foldlM_cons, found]
      exact ⟨text'', resolved, final⟩

/-- The look-ups of the pass in a resource, one after the other. -/
theorem sequence_lookups (targets : List (Identity × String)) (type : GroupVersionKind) (r : Resource) :
    Progress.sequence (fun reference : ReferenceRule =>
        updateAll reference.rules (onString (resolve targets reference.selector)) type) references r =
      Progress.sequence (fun e : GroupVersionKind × PathRule =>
        updateAt e.2 (onString (resolve targets e.1) e.2)) (lookupsFor type) r :=
  Progress.sequence_flatMap
    (fun selector rule => updateAt rule (onString (resolve targets selector) rule))
    ReferenceRule.selector (fun reference => reference.rules.filter (·.appliesTo type)) references r

/-- A reference is resolved by the look-ups that the table lists for its place, one after the
other. -/
theorem nameReference_at {c c' : Collection} (ran : (nameReference references).run c = .done c')
    {id : Identity} {r : Resource} (held : c.find? id = some r) {q : Position}
    (listed : q.keys ∈ referencePaths id.type) {text : String}
    (stored : r.object.at? q = some (.string text)) :
    ∃ r' text', c'.find? id = some r' ∧
      (selectorsAt id.type q.keys).foldlM
        (fun name selector => resolve (namedResources c) selector name) text = .ok text' ∧
      r'.object.at? q = some (.string text') := by
  obtain ⟨r', held', done⟩ := (eachResource_eq_done.mp ran).find? held
  obtain ⟨own, applied, at_path⟩ := ReferenceRule.mem_referencePaths.mp listed
  rw [sequence_lookups] at done
  obtain ⟨text', resolved, final⟩ := lookups_at (l := lookupsFor id.type)
    (fun e member => (ReferenceRule.lookups_ofKind e (ReferenceRule.mem_lookupsFor.mp member).1).2.1)
    (fun e member => at_path ▸ ReferenceRule.lookupsFor_apart member applied)
    done stored
  exact ⟨r', text', held', resolved, final⟩

/-! ## One step -/

/-- The text after the pass is the one before, or the current name of a resource that is declared
under the one before and of a kind that the table lists for the place. -/
def ResolvedInOneStep (c : Collection) (type : GroupVersionKind) (path : FieldPath)
    (before after : String) : Prop :=
  after = before ∨ ∃ kind id, Listed type path kind ∧ c.Declares kind before id after

/-- The role of a role binding is a declared role whose current name is the declared name of a
cluster role, and the current name of that one is a third name, which the declared name could not
have given in one step. -/
def RenamedTwice (c : Collection) (type : GroupVersionKind) (path : FieldPath) (before : String) : Prop :=
  type.kind = "RoleBinding" ∧ path = ["roleRef", "name"] ∧ ∃ role clusterRole between after,
    c.Declares "Role" before role between ∧ c.Declares "ClusterRole" between clusterRole after ∧
    after ≠ before ∧ after ≠ between ∧ ∀ id, ¬ c.Declares "ClusterRole" before id after

/-- One look-up is one step. -/
theorem resolvedInOneStep_of_resolve {c : Collection} {type : GroupVersionKind} {path : FieldPath}
    {kind before after : String} (named : kind ≠ "") (listed : Listed type path kind)
    (ran : resolve (namedResources c) (.ofKind kind) before = .ok after) :
    ResolvedInOneStep c type path before after := by
  rcases resolve_eq_ok named ran with ⟨id, declares, -⟩ | ⟨same, -⟩
  · exact .inr ⟨kind, id, listed, declares⟩
  · exact .inl same

/-- Two look-ups, among the roles and among the cluster roles, are one step unless they have
renamed twice. -/
theorem resolvedInOneStep_of_roles {c : Collection} {type : GroupVersionKind} {path : FieldPath}
    (binding : type.kind = "RoleBinding") (role : path = ["roleRef", "name"])
    (listed : ∀ kind, Listed type path kind ↔ kind = "Role" ∨ kind = "ClusterRole")
    {before between after : String}
    (first : resolve (namedResources c) (.ofKind "Role") before = .ok between)
    (second : resolve (namedResources c) (.ofKind "ClusterRole") between = .ok after) :
    ResolvedInOneStep c type path before after ↔ ¬ RenamedTwice c type path before := by
  have isRole := (listed "Role").mpr (.inl rfl)
  have isClusterRole := (listed "ClusterRole").mpr (.inr rfl)
  rcases resolve_eq_ok (by decide) first with ⟨declared, declares, unique⟩ | ⟨rfl, noRole⟩
  · rcases resolve_eq_ok (by decide) second with ⟨declared', declares', unique'⟩ | ⟨rfl, noClusterRole⟩
    · constructor
      · rintro oneStep ⟨-, -, id, id', between', after', renamed, renamed', back, stayed, other⟩
        obtain ⟨-, rfl⟩ := unique _ _ renamed
        obtain ⟨-, rfl⟩ := unique' _ _ renamed'
        rcases oneStep with same | ⟨kind, target, isListed, again⟩
        · exact back same
        · rcases (listed kind).mp isListed with rfl | rfl
          · exact stayed (unique _ _ again).2
          · exact other _ again
      · intro once
        by_contra notOneStep
        refine once ⟨binding, role, declared, declared', between, after, declares, declares', ?_, ?_, ?_⟩
        · exact fun same => notOneStep (.inl same)
        · rintro rfl
          exact notOneStep (.inr ⟨_, declared, isRole, declares⟩)
        · exact fun id again => notOneStep (.inr ⟨_, id, isClusterRole, again⟩)
    · refine iff_of_true (.inr ⟨_, declared, isRole, declares⟩) ?_
      rintro ⟨-, -, id, id', between', after', renamed, renamed', -⟩
      obtain ⟨-, rfl⟩ := unique _ _ renamed
      exact noClusterRole _ _ renamed'
  · refine iff_of_true (resolvedInOneStep_of_resolve (by decide) isClusterRole second) ?_
    rintro ⟨-, -, id, id', between', after', renamed, -⟩
    exact noRole _ _ renamed

/-- A reference is resolved in one step from the name that stood there before the pass, except where
a role binding refers to a role whose current name is declared by a cluster role: that name, which
the pass has just written, is looked up again. -/
theorem resolvedInOneStep_iff {c c' : Collection} (ran : (nameReference references).run c = .done c')
    {id : Identity} {r : Resource} (held : c.find? id = some r) {q : Position} {kind : String}
    (listed : Listed id.type q.keys kind) {before : String}
    (stored : r.object.at? q = some (.string before)) :
    ∃ r' after, c'.find? id = some r' ∧ r'.object.at? q = some (.string after) ∧
      (ResolvedInOneStep c id.type q.keys before after ↔
        ¬ RenamedTwice c id.type q.keys before) := by
  obtain ⟨r', after, held', resolved, stored'⟩ :=
    nameReference_at ran held (ReferenceRule.mem_referencePaths_of_listed listed) stored
  refine ⟨r', after, held', stored', ?_⟩
  rcases ReferenceRule.selectorsAt_cases listed with one | ⟨binding, role, two⟩
  · rw [one] at resolved
    obtain ⟨text, found, last⟩ := foldlM_cons_eq_ok.mp resolved
    cases last
    refine iff_of_true (resolvedInOneStep_of_resolve (ReferenceRule.listed_named listed) listed found) ?_
    rintro ⟨binding, role, -⟩
    rw [ReferenceRule.selectorsAt_roleOfBinding binding role] at one
    simp at one
  · rw [two] at resolved
    have listedRoles : ∀ kind, Listed id.type q.keys kind ↔ kind = "Role" ∨ kind = "ClusterRole" := by
      intro kind
      rw [ReferenceRule.listed_iff, two]
      simp [GroupVersionKind.ofKind]
    obtain ⟨between, first, rest⟩ := foldlM_cons_eq_ok.mp resolved
    obtain ⟨text, second, last⟩ := foldlM_cons_eq_ok.mp rest
    cases last
    exact resolvedInOneStep_of_roles binding role listedRoles first second

/-! ## A role and a cluster role -/

/-- The type of a kind of roles. -/
def roleType (kind : String) : GroupVersionKind := ⟨"rbac.authorization.k8s.io", "v1", kind⟩

/-- A role and a cluster role after their names got a prefix, the cluster role being declared under
the name that the role now has, and a binding to the role. -/
def prefixedRoles : Collection :=
  ((Collection.empty.put ⟨roleType "ClusterRole", "my-view"⟩
      ⟨.map [("metadata", .map [("name", .string "my-my-view")])], false⟩).put
    ⟨roleType "Role", "view"⟩ ⟨.map [("metadata", .map [("name", .string "my-view")])], false⟩).put
      ⟨roleType "RoleBinding", "viewers"⟩
        ⟨.map [("roleRef", .map [("kind", .string "Role"), ("name", .string "view")])], false⟩

theorem roles_listed : Listed (roleType "RoleBinding") ["roleRef", "name"] "Role" := by
  rw [ReferenceRule.listed_iff, ReferenceRule.selectorsAt_roleOfBinding rfl rfl]
  exact List.mem_cons_self

/-- The binding to the role is resolved in one step exactly if it is not renamed twice. -/
theorem viewers_resolvedInOneStep_iff : ∃ c' r r' after,
    (nameReference references).run prefixedRoles = .done c' ∧
    prefixedRoles.find? ⟨roleType "RoleBinding", "viewers"⟩ = some r ∧
    r.object.at? [.key "roleRef", .key "name"] = some (.string "view") ∧
    c'.find? ⟨roleType "RoleBinding", "viewers"⟩ = some r' ∧
    r'.object.at? [.key "roleRef", .key "name"] = some (.string after) ∧
    (ResolvedInOneStep prefixedRoles (roleType "RoleBinding") ["roleRef", "name"] "view" after ↔
      ¬ RenamedTwice prefixedRoles (roleType "RoleBinding") ["roleRef", "name"] "view") := by
  have ran : (nameReference references).run prefixedRoles =
      .done ((nameReference references).run prefixedRoles).reached := rfl
  have held : prefixedRoles.find? ⟨roleType "RoleBinding", "viewers"⟩ =
      some ⟨.map [("roleRef", .map [("kind", .string "Role"), ("name", .string "view")])], false⟩ := rfl
  have stored : Document.at? [.key "roleRef", .key "name"]
      (.map [("roleRef", .map [("kind", .string "Role"), ("name", .string "view")])]) =
        some (.string "view") := rfl
  obtain ⟨r', after, held', stored', oneStep⟩ :=
    resolvedInOneStep_iff (q := [.key "roleRef", .key "name"]) ran held roles_listed stored
  exact ⟨_, _, r', after, ran, held, stored, held', stored', oneStep⟩

/-- The pass has resolved the name of the role to the name of the cluster role. -/
theorem viewers_renamed_twice : ∃ c' r r' after,
    (nameReference references).run prefixedRoles = .done c' ∧
    prefixedRoles.find? ⟨roleType "RoleBinding", "viewers"⟩ = some r ∧
    Listed (roleType "RoleBinding") ["roleRef", "name"] "Role" ∧
    r.object.at? [.key "roleRef", .key "name"] = some (.string "view") ∧
    c'.find? ⟨roleType "RoleBinding", "viewers"⟩ = some r' ∧
    r'.object.at? [.key "roleRef", .key "name"] = some (.string after) ∧
    ¬ ResolvedInOneStep prefixedRoles (roleType "RoleBinding") ["roleRef", "name"] "view" after := by
  refine ⟨((nameReference references).run prefixedRoles).reached, _, _, "my-my-view", rfl, rfl,
    roles_listed, rfl, rfl, rfl, ?_⟩
  rintro (same | ⟨kind, id, -, -, declared, r, held, name⟩)
  · exact absurd same (by decide)
  · have member := Collection.mem_entries.mpr held
    -- Nothing that is declared under the old name has the name that was written.
    rcases Ordered.mem_insert member with same | member
    · cases same
      exact absurd declared (by decide)
    · rcases Ordered.mem_insert member with same | member
      · cases same
        exact absurd name (by decide)
      · rcases Ordered.mem_insert member with same | member
        · cases same
          exact absurd declared (by decide)
        · exact absurd member List.not_mem_nil

end Pass

end KubeOverlay
