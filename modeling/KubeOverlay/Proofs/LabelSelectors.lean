import KubeOverlay.Proofs.ReferenceTable
import KubeOverlay.Proofs.Rewriting
/-!
# Labels and selectors

What selects pods by their labels still selects them when labels are added (`labels_contained`). At the
path of every rule the entries of the map grow by the labels (`labels_grows`), or there is nothing at
it; and for the labels of pods the latter is only so where the path leads through a list, since
what is missing of it is created.
-/
namespace KubeOverlay

/-! ## Entries at a path -/

/-- Whatever is stored under a key of the one map is stored under it in the other. -/
def Contained (selector labels : Fields) : Prop :=
  ∀ key d, Ordered.find? key selector = some d → Ordered.find? key labels = some d

section Contained

variable {a b : Fields}

theorem contained_nil (b : Fields) : Contained [] b := by
  intro key d found
  contradiction

theorem contained_cons {key : String} {d : Document} (found : Ordered.find? key b = some d)
    (rest : Contained a b) : Contained ((key, d) :: a) b := by
  intro other d' stored
  rw [Ordered.find?] at stored
  split at stored
  · next same =>
    cases Std.LawfulEqCmp.eq_of_compare same
    rw [found, stored]
  · exact rest other d' stored

theorem Contained.insert (contained : Contained a b) (key : String) (d : Document) :
    Contained (Ordered.insert key d a) (Ordered.insert key d b) := by
  intro other d' found
  by_cases same : other = key
  · subst same
    rw [Ordered.find?_insert_self] at found ⊢
    exact found
  · rw [Ordered.find?_insert_of_ne key other d _ same] at found ⊢
    exact contained other d' found

end Contained

/-- The fields with more entries, in place of those under the same keys. -/
def grown (entries : List (String × String)) (fields : Fields) : Fields :=
  entries.foldl (fun fields e => Ordered.insert e.1 (.string e.2) fields) fields

theorem Contained.grown {a b : Fields} (contained : Contained a b) (entries : List (String × String)) :
    Contained (grown entries a) (grown entries b) := by
  induction entries generalizing a b with
  | nil => exact contained
  | cons e rest ih => exact ih (contained.insert e.1 (.string e.2))

namespace Document

variable {path : FieldPath} {d d' : Document}

/-- The entries of the map at a path that leads through maps. Where there is no map there are none. -/
def fieldsAt (path : FieldPath) (d : Document) : Fields :=
  ((d.at? (path.map .key)).bind fields?).getD []

/-- No list is on the way that a path leads. -/
def ThroughMaps (path : FieldPath) (d : Document) : Prop :=
  ∀ above, above <+: path → above ≠ path → ∀ items, d.at? (above.map .key) ≠ some (.list items)

theorem fieldsAt_congr (same : d'.at? (path.map .key) = d.at? (path.map .key)) :
    d'.fieldsAt path = d.fieldsAt path := by
  rw [fieldsAt, fieldsAt, same]

theorem ThroughMaps.nil (d : Document) : d.ThroughMaps [] := by
  intro above start differs
  exact absurd (List.prefix_nil.mp start) differs

theorem ThroughMaps.cons {key : String} {fields : Fields} (stored : Ordered.find? key fields = some d)
    (through : d.ThroughMaps path) : (map fields).ThroughMaps (key :: path) := by
  intro above start differs items
  match above with
  | [] => simp
  | first :: above =>
    obtain ⟨rfl, onwards⟩ := List.cons_prefix_cons.mp start
    rw [List.map_cons, at?_key_map, stored]
    exact through above onwards (by simpa using differs) items

end Document

open Document (ThroughMaps)

/-! ## Edits that add entries -/

namespace FieldPath

open Document

variable {σ : Type} {create : Bool} {f : Edit σ} {walked path : FieldPath} {key : String}
  {object object' : Fields} {entries : List (String × String)} {s : σ}

/-- What an edit that gives maps with more entries makes of the entries at its path. There is nothing to
grow where it creates nothing, or where the path leads through a list. -/
def Grows (entries : List (String × String)) (create : Bool) (path : FieldPath) (d d' : Document) : Prop :=
  d'.fieldsAt path = grown entries (d.fieldsAt path) ∨
    d'.fieldsAt path = [] ∧ (create = true → ¬ d.ThroughMaps path)

theorem grows_absent (absent : slot? create key object = none) :
    Grows entries create (key :: path) (.map object) (.map object) := by
  rw [slot?] at absent
  cases stored : Ordered.find? key object with
  | some d => simp [stored] at absent
  | none =>
    refine .inr ⟨?_, fun created => ?_⟩
    · simp [fieldsAt, stored]
    · simp [stored, created] at absent

/-- A walk through the slot of the first key goes on below it. -/
theorem throughMaps_slot {d : Document} (slot : slot? create key object = some d)
    (through : (Document.map object).ThroughMaps (key :: path)) : d.ThroughMaps path := by
  intro above start differs items
  have listed := through (key :: above) (List.cons_prefix_cons.mpr ⟨rfl, start⟩) (by simpa using differs) items
  match above with
  | [] =>
    rcases slot?_cases slot with stored | ⟨-, -, rfl⟩
    · simpa [stored] using listed
    · simp
  | _ :: _ =>
    rw [at?_insert_slot slot (by simp)]
    exact listed

/-- Where nothing is stored, a map that is created in its place has no more entries than nothing. -/
theorem fieldsAt_slot {d : Document} (slot : slot? create key object = some d) :
    (Document.map object).fieldsAt (key :: path) = d.fieldsAt path := by
  cases path with
  | nil =>
    rcases slot?_cases slot with stored | ⟨absent, -, rfl⟩
    · simp [fieldsAt, stored]
    · simp [fieldsAt, absent, fields?]
  | cons next rest =>
    rw [fieldsAt, fieldsAt, List.map_cons, at?_insert_slot slot (by simp)]

/-- An edit that adds entries to what it finds makes the entries at its path grow. -/
theorem rewrites_grows {g : Document → Except BuildError Document} {d d' : Document}
    (adds : ∀ d d', g d = .ok d' → d' = .map (grown entries (d.fields?.getD [])))
    (rewrites : Rewrites create g path d d') : Grows entries create path d d' := by
  induction path generalizing d d' with
  | nil =>
    left
    rw [adds d d' rewrites]
    simp [fieldsAt, fields?]
  | cons key path ih =>
    rcases rewrites with ⟨absent | ⟨slot, related⟩⟩ | _
    · exact grows_absent absent
    · rw [Grows, fieldsAt_slot slot, fieldsAt, List.map_cons, at?_insert_self]
      refine (ih related).imp_right ?_
      rintro ⟨nothing, listed⟩
      exact ⟨nothing, fun created through => listed created (throughMaps_slot slot through)⟩
    · exact .inr ⟨rfl, fun _ through => through [] List.nil_prefix (by simp) _ rfl⟩

/-- On its way an edit makes no list of what is none. -/
theorem editFrom_list {above : FieldPath} (start : above <+: path) (differs : above ≠ path) {items : List Document}
    (listed : (Document.map (editFrom create f walked path object s).1.reached).at? (above.map .key) =
      some (.list items)) :
    ∃ items, (Document.map object).at? (above.map .key) = some (.list items) := by
  induction path generalizing above walked object items s with
  | nil => exact absurd (List.prefix_nil.mp start) differs
  | cons key path ih =>
    cases above with
    | nil => simp at listed
    | cons first above =>
      cases path with
      | nil => simp_all [List.cons_prefix_cons]
      | cons next rest =>
        obtain ⟨rfl, onwards⟩ := List.cons_prefix_cons.mp start
        have before : above ≠ next :: rest := by simpa using differs
        rw [editFrom] at listed
        dsimp only at listed
        split at listed
        · exact ⟨items, listed⟩
        · next fields slot =>
          rw [List.map_cons, Progress.map, at?_insert_self] at listed
          cases above with
          | nil => simp at listed
          | cons second above =>
            rw [List.map_cons, ← at?_insert_slot slot (by simp)]
            exact ih onwards before listed
        · next held slot =>
          rw [List.map_cons, Progress.map, at?_insert_self] at listed
          cases above with
          | nil =>
            rcases slot?_cases slot with stored | ⟨-, -, created⟩
            · exact ⟨held, by simp [stored]⟩
            · contradiction
          | cons second above => simp [at?] at listed
        · next d notMap notList slot =>
          rw [List.map_cons, Progress.stopped, at?_insert_self] at listed
          cases above with
          | nil => simp_all
          | cons second above =>
            rw [List.map_cons, ← at?_insert_slot slot (by simp)]
            exact ⟨items, listed⟩

end FieldPath

/-! ## Rules in order -/

namespace Pass

open FieldPath (Grows)

variable {entries : List (String × String)} {rule other : PathRule} {rules : List PathRule} {r r' : Resource}

theorem addEntries_eq_ok {d d' : Document} (ran : addEntries entries rule d = .ok d') :
    d' = .map (grown entries (d.fields?.getD [])) := by
  cases d <;> simp_all [addEntries, addEntries.added, grown, Document.fields?]

theorem updateAt_grows (path : rule.path ≠ []) (ran : updateAt rule (addEntries entries rule) r = .done r') :
    Grows entries rule.create rule.path r.object r'.object := by
  obtain ⟨fields, fields', object, edited, rfl⟩ := (updateAt_eq_done_iff path).mp ran
  rw [object]
  exact FieldPath.rewrites_grows (fun d d' => addEntries_eq_ok) edited

/-- An edit at an apart path puts no list on the way. -/
theorem updateAt_throughMaps {path : FieldPath} (apart : rule.path.Apart path)
    (f : Document → Except BuildError Document) (through : r.object.ThroughMaps path) :
    (updateAt rule f r).reached.object.ThroughMaps path := by
  intro above start differs items listed
  by_cases within : above <+: rule.path
  · have differs' : above ≠ rule.path := by
      rintro rfl
      exact apart.1 start
    rw [updateAt] at listed
    split at listed
    · next fields object =>
      obtain ⟨before, was⟩ := FieldPath.editFrom_list within differs' listed
      rw [← object] at was
      exact through above start differs before was
    · exact through above start differs items listed
  · have outside : rule.path.Apart (Position.keys (above.map .key)) := by
      rw [Position.keys_map_key]
      exact ⟨fun begins => apart.1 (begins.trans start), within⟩
    rw [(updateAt_kept rule f r).at? _ (by simpa using outside)] at listed
    exact through above start differs items listed

theorem updateAt_fieldsAt {path : FieldPath} (apart : rule.path.Apart path)
    (f : Document → Except BuildError Document) :
    (updateAt rule f r).reached.object.fieldsAt path = r.object.fieldsAt path := by
  refine Document.fieldsAt_congr ((updateAt_kept rule f r).at? _ ?_)
  simpa [Position.keys_map_key] using apart

theorem sequence_fieldsAt {path : FieldPath} (apart : ∀ rule ∈ rules, rule.path.Apart path)
    (f : PathRule → Document → Except BuildError Document) (r : Resource) :
    (Progress.sequence (fun rule => updateAt rule (f rule)) rules r).reached.object.fieldsAt path =
      r.object.fieldsAt path := by
  refine Progress.sequence_invariant (R := fun a b : Resource => b.object.fieldsAt path = a.object.fieldsAt path)
    ?_ ?_ ?_ r
  · intro a
    rfl
  · intro a b c first second
    exact second.trans first
  · intro rule member a
    exact updateAt_fieldsAt (apart rule member) (f rule)

/-- Where the paths of rules are apart, the entries grow at each of them. -/
theorem sequence_grows (nonempty : ∀ rule ∈ rules, rule.path ≠ [])
    (apart : rules.Pairwise fun a b => a.path.Apart b.path)
    (ran : Progress.sequence (fun rule => updateAt rule (addEntries entries rule)) rules r = .done r') :
    ∀ rule ∈ rules, Grows entries rule.create rule.path r.object r'.object := by
  induction rules generalizing r with
  | nil =>
    intro rule member
    contradiction
  | cons first rest ih =>
    obtain ⟨fromFirst, apart⟩ := List.pairwise_cons.mp apart
    obtain ⟨between, here, later⟩ := Progress.sequence_cons_eq_done.mp ran
    have others : ∀ path : FieldPath, first.path.Apart path →
        between.object.fieldsAt path = r.object.fieldsAt path ∧
        (r.object.ThroughMaps path → between.object.ThroughMaps path) := by
      intro path apart
      have same := updateAt_fieldsAt (r := r) apart (addEntries entries first)
      have through := updateAt_throughMaps (r := r) apart (addEntries entries first)
      rw [here] at same through
      exact ⟨same, through⟩
    intro rule member
    rcases List.mem_cons.mp member with rfl | member
    · have kept : r'.object.fieldsAt rule.path = between.object.fieldsAt rule.path := by
        have same := sequence_fieldsAt (fun other member => (fromFirst other member).symm) (addEntries entries) between
        rw [later] at same
        exact same
      rw [Grows, kept]
      exact updateAt_grows (nonempty rule List.mem_cons_self) here
    · obtain ⟨same, through⟩ := others rule.path (fromFirst rule member)
      have grows := ih (fun rule member => nonempty rule (List.mem_cons_of_mem _ member)) apart later rule member
      rw [Grows, same] at grows
      exact grows.imp_right fun ⟨nothing, listed⟩ => ⟨nothing, fun created kept => listed created (through kept)⟩

end Pass

/-! ## The table of labels -/

namespace PathRule

/-- The paths of any two of the rules for a type are apart. -/
def ApartFor (rules : List PathRule) (type : GroupVersionKind) : Prop :=
  (rules.filter (·.appliesTo type)).Pairwise fun a b => a.path.Apart b.path

/-- Rules each of which is for one kind or for all, and no two for one kind at paths that are not apart. -/
structure ByKind (rules : List PathRule) : Prop where
  ofKind : ∀ rule ∈ rules, rule.path ≠ [] ∧
    rule.selector.all (fun selector => selector = .ofKind selector.kind ∧ selector.kind ≠ "")
  apart : rules.Pairwise fun a b =>
    a.selector = none ∨ b.selector = none ∨ a.selector = b.selector → a.path.Apart b.path

section ByKind

variable {rules : List PathRule} {rule : PathRule}

/-- A rule is for the resources of its kind. -/
theorem ByKind.appliesTo_iff (byKind : ByKind rules) (member : rule ∈ rules) (type : GroupVersionKind) :
    rule.appliesTo type ↔ rule.selector = none ∨ rule.selector = some (.ofKind type.kind) := by
  have ofKind := (byKind.ofKind rule member).2
  rw [appliesTo]
  cases stored : rule.selector with
  | none => simp
  | some selector =>
    obtain ⟨same, named⟩ : selector = .ofKind selector.kind ∧ selector.kind ≠ "" := by simpa [stored] using ofKind
    rw [Option.all_some, same, GroupVersionKind.isSelectedBy_ofKind named]
    simp [GroupVersionKind.ofKind, eq_comm]

theorem ByKind.apartFor (byKind : ByKind rules) (type : GroupVersionKind) : ApartFor rules type := by
  have sub := byKind.apart.sublist (List.filter_sublist (p := (·.appliesTo type)))
  refine sub.imp_of_mem fun {a b} left right apart => apart ?_
  obtain ⟨left, applies⟩ := List.mem_filter.mp left
  obtain ⟨right, applies'⟩ := List.mem_filter.mp right
  rcases (byKind.appliesTo_iff left type).mp applies with all | one
  · exact .inl all
  · rcases (byKind.appliesTo_iff right type).mp applies' with all' | one'
    · exact .inr (.inl all')
    · exact .inr (.inr (one.trans one'.symm))

end ByKind

theorem labels_byKind : ByKind labels where
  ofKind := by decide
  apart := by decide

/-- A rule of the table is for the resources of its kind. -/
theorem labels_appliesTo_iff {rule : PathRule} (member : rule ∈ labels) (type : GroupVersionKind) :
    rule.appliesTo type ↔ rule.selector = none ∨ rule.selector = some (.ofKind type.kind) :=
  labels_byKind.appliesTo_iff member type

/-- The kinds that select pods by their labels, with the paths of the labels that they select. -/
def selectors : List (String × FieldPath) :=
  [("Deployment", ["spec", "selector", "matchLabels"]),
    ("ReplicaSet", ["spec", "selector", "matchLabels"]),
    ("DaemonSet", ["spec", "selector", "matchLabels"]),
    ("StatefulSet", ["spec", "selector", "matchLabels"]),
    ("Job", ["spec", "selector", "matchLabels"]),
    ("CronJob", ["spec", "jobTemplate", "spec", "selector", "matchLabels"]),
    ("ReplicationController", ["spec", "selector"]),
    ("Service", ["spec", "selector"]),
    ("PodDisruptionBudget", ["spec", "selector", "matchLabels"]),
    ("NetworkPolicy", ["spec", "podSelector", "matchLabels"])]

/-- The kinds that are pods or make them, with the paths of the labels that the pods have. -/
def podLabels : List (String × FieldPath) :=
  [("Pod", ["metadata", "labels"]),
    ("Deployment", ["spec", "template", "metadata", "labels"]),
    ("ReplicaSet", ["spec", "template", "metadata", "labels"]),
    ("DaemonSet", ["spec", "template", "metadata", "labels"]),
    ("StatefulSet", ["spec", "template", "metadata", "labels"]),
    ("Job", ["spec", "template", "metadata", "labels"]),
    ("CronJob", ["spec", "jobTemplate", "spec", "template", "metadata", "labels"]),
    ("ReplicationController", ["spec", "template", "metadata", "labels"])]

theorem selectors_labelled : ∀ e ∈ selectors,
    ∃ rule ∈ labels, rule.selector = some (.ofKind e.1) ∧ rule.path = e.2 := by
  decide

theorem podLabels_created : ∀ e ∈ podLabels, ∃ rule ∈ labels,
    (rule.selector = none ∨ rule.selector = some (.ofKind e.1)) ∧ rule.path = e.2 ∧ rule.create = true := by
  decide

end PathRule

/-! ## The pass -/

namespace Pass

open FieldPath (Grows)
open PathRule (selectors podLabels)

variable {entries : List (String × String)} {c c' : Collection}

theorem labels_grows (ran : (labels entries PathRule.labels).run c = .done c') :
    Collection.Pointwise (fun id r r' => ∀ rule ∈ PathRule.labels, rule.appliesTo id.type →
      Grows entries rule.create rule.path r.object r'.object) c c' := by
  simp only [labels, mapEntries] at ran
  split at ran
  · next empty =>
    cases ran
    obtain rfl := List.isEmpty_iff.mp empty
    exact .refl (fun id r rule _ _ => .inl rfl) c
  · refine (eachResource_eq_done.mp ran).mono fun id r r' done rule member applies => ?_
    refine sequence_grows ?_ (PathRule.labels_byKind.apartFor id.type) done rule (List.mem_filter.mpr ⟨member, applies⟩)
    intro rule inside
    exact (PathRule.labels_byKind.ofKind rule (List.mem_filter.mp inside).1).1

variable {id other : Identity} {r pod : Resource} {selecting selected : FieldPath}

/-- Adding labels breaks no selector. If a resource selects a pod by its labels, or the pods of a template,
it still does after the pass; the template may be its own. Labels and selectors that are missing or null
have no entries, and the labels are not inside a list. -/
theorem labels_contained (ran : (labels entries PathRule.labels).run c = .done c')
    (held : c.find? id = some r) (held' : c.find? other = some pod)
    (selects : (id.type.kind, selecting) ∈ selectors) (labelled : (other.type.kind, selected) ∈ podLabels)
    (through : pod.object.ThroughMaps selected)
    (contained : Contained (r.object.fieldsAt selecting) (pod.object.fieldsAt selected)) :
    ∃ r' pod', c'.find? id = some r' ∧ c'.find? other = some pod' ∧
      Contained (r'.object.fieldsAt selecting) (pod'.object.fieldsAt selected) := by
  obtain ⟨r', again, grows⟩ := (labels_grows ran).find? held
  obtain ⟨pod', again', grows'⟩ := (labels_grows ran).find? held'
  refine ⟨r', pod', again, again', ?_⟩
  obtain ⟨rule, member, kind, rfl⟩ := PathRule.selectors_labelled _ selects
  obtain ⟨rule', member', kind', rfl, create⟩ := PathRule.podLabels_created _ labelled
  have selector := grows rule member ((PathRule.labels_appliesTo_iff member id.type).mpr (.inr kind))
  have labels := grows' rule' member' ((PathRule.labels_appliesTo_iff member' other.type).mpr kind')
  have added : pod'.object.fieldsAt rule'.path = grown entries (pod.object.fieldsAt rule'.path) := by
    refine labels.resolve_right fun ⟨_, listed⟩ => ?_
    exact listed create through
  rcases selector with grew | ⟨nothing, -⟩
  · rw [grew, added]
    exact contained.grown entries
  · rw [nothing]
    exact contained_nil _

/-! ## A deployment behind a service -/

def serviceId : Identity := ⟨⟨"", "v1", "Service"⟩, "web"⟩

def deploymentId : Identity := ⟨⟨"apps", "v1", "Deployment"⟩, "web"⟩

def serviceObject : Document := .map [("spec", .map [("selector", .map [("app", .string "old")])])]

def deploymentObject : Document :=
  .map [("spec", .map [
    ("selector", .map [("matchLabels", .map [("tier", .string "a")])]),
    ("template", .map [("metadata", .map [("labels", .map [("app", .string "old"), ("tier", .string "a")])])])])]

/-- A deployment, and a service that selects its pods by a label that they get another value for. -/
def served : Collection where
  entries := [(serviceId, ⟨serviceObject, false⟩), (deploymentId, ⟨deploymentObject, false⟩)]
  ascending := by
    rw [Ordered.Ascending, List.pairwise_pair]
    decide

/-- With another value for the label the service and the deployment still select the pods. -/
theorem served_contained : ∃ c' service deployment,
    (labels [("app", "new")] PathRule.labels).run served = .done c' ∧
    c'.find? serviceId = some service ∧ c'.find? deploymentId = some deployment ∧
    Contained (service.object.fieldsAt ["spec", "selector"])
      (deployment.object.fieldsAt ["spec", "template", "metadata", "labels"]) ∧
    Contained (deployment.object.fieldsAt ["spec", "selector", "matchLabels"])
      (deployment.object.fieldsAt ["spec", "template", "metadata", "labels"]) := by
  have unstopped : ((labels [("app", "new")] PathRule.labels).run served).error?.isNone = true := by decide
  have ran := Progress.eq_done (Option.isNone_iff_eq_none.mp unstopped)
  have through : deploymentObject.ThroughMaps ["spec", "template", "metadata", "labels"] :=
    .cons rfl (.cons rfl (.cons rfl (.cons rfl (.nil _))))
  have present : served.find? serviceId = some ⟨serviceObject, false⟩ := rfl
  have present' : served.find? deploymentId = some ⟨deploymentObject, false⟩ := rfl
  have pods : (deploymentId.type.kind, ["spec", "template", "metadata", "labels"]) ∈ podLabels := by decide
  have byService : (serviceId.type.kind, ["spec", "selector"]) ∈ selectors := by decide
  have byDeployment : (deploymentId.type.kind, ["spec", "selector", "matchLabels"]) ∈ selectors := by decide
  have before : Contained (serviceObject.fieldsAt ["spec", "selector"])
      (deploymentObject.fieldsAt ["spec", "template", "metadata", "labels"]) :=
    contained_cons (a := []) (b := [_, _]) rfl (contained_nil _)
  have before' : Contained (deploymentObject.fieldsAt ["spec", "selector", "matchLabels"])
      (deploymentObject.fieldsAt ["spec", "template", "metadata", "labels"]) :=
    contained_cons (a := []) (b := [_, _]) rfl (contained_nil _)
  obtain ⟨service, deployment, held, held', contained⟩ :=
    labels_contained ran present present' byService pods through before
  obtain ⟨_, _, again, again', contained'⟩ :=
    labels_contained ran present' present' byDeployment pods through before'
  cases held'.symm.trans again
  cases held'.symm.trans again'
  exact ⟨_, service, deployment, ran, held, held', contained, contained'⟩

end Pass

end KubeOverlay
