import KubeOverlay.Proofs.KeyOrder
import KubeOverlay.Proofs.References
/-!
# References that are looked up again

Where the reference pass has succeeded, the paths of its table lead to strings and to nothing else
(`Pass.nameReference_leads`). Another run of the pass looks these strings up. If every resource is
declared under its current name, a look-up gives the name that it is for or finds several, so the run
changes nothing or ends with an ambiguous reference (`Pass.nameReference_idle`).
-/
namespace KubeOverlay

open PathRule (referencePaths)
open ReferenceRule (references lookupsFor)

/-! ## Steps that change nothing -/

namespace Progress

variable {ε σ τ α : Type} {P : ε → Prop}

/-- Nothing changes, or an error with a property stops the step. -/
def Idle (P : ε → Prop) (s : σ) (p : Progress ε σ) : Prop :=
  p = .done s ∨ ∃ reached e, p = .stopped reached e ∧ P e

theorem Idle.map {f : σ → τ} {s : σ} {p : Progress ε σ} (idle : Idle P s p) {t : τ} (same : f s = t) :
    Idle P t (p.map f) := by
  rcases idle with rfl | ⟨reached, e, rfl, holds⟩
  · exact .inl (congrArg done same)
  · exact .inr ⟨f reached, e, rfl, holds⟩

theorem Idle.sequence {step : α → σ → Progress ε σ} {l : List α} {s : σ}
    (each : ∀ a ∈ l, Idle P s (step a s)) : Idle P s (sequence step l s) := by
  induction l with
  | nil => exact .inl rfl
  | cons a rest ih =>
    rw [Progress.sequence]
    rcases each a List.mem_cons_self with here | ⟨reached, e, here, holds⟩
    · rw [here]
      exact ih fun b later => each b (List.mem_cons_of_mem a later)
    · rw [here]
      exact .inr ⟨reached, e, rfl, holds⟩

end Progress

open Progress (Idle)

/-! ## Where a path leads -/

namespace FieldPath

variable {σ : Type} {path other : FieldPath} {object object' : Fields} {key : String}

/-- A path leads through maps and lists of maps, and where its last key is present, to a string. -/
def Leads : FieldPath → Fields → Prop
  | [], _ => True
  | [key], object => ∀ d, Ordered.find? key object = some d → ∃ s, d = .string s
  | key :: next :: rest, object => ∀ d, Ordered.find? key object = some d →
      (∃ fields, d = .map fields ∧ Leads (next :: rest) fields) ∨
      ∃ items, d = .list items ∧ ∀ item ∈ items, ∃ fields, item = .map fields ∧ Leads (next :: rest) fields

theorem leads_congr (same : Ordered.find? key object' = Ordered.find? key object) :
    Leads (key :: path) object' ↔ Leads (key :: path) object := by
  cases path with
  | nil => rw [Leads, Leads, same]
  | cons next rest => rw [Leads, Leads, same]

theorem leads_insert_string (s : String) : Leads [key] (Ordered.insert key (.string s) object) := by
  intro d found
  rw [Ordered.find?_insert_self] at found
  exact ⟨s, (Option.some.inj found).symm⟩

theorem leads_insert_map {next : String} {rest : FieldPath} {fields : Fields}
    (leads : Leads (next :: rest) fields) :
    Leads (key :: next :: rest) (Ordered.insert key (.map fields) object) := by
  intro d found
  rw [Ordered.find?_insert_self] at found
  exact .inl ⟨fields, (Option.some.inj found).symm, leads⟩

theorem leads_insert_list {next : String} {rest : FieldPath} {items : List Document}
    (leads : ∀ item ∈ items, ∃ fields, item = .map fields ∧ Leads (next :: rest) fields) :
    Leads (key :: next :: rest) (Ordered.insert key (.list items) object) := by
  intro d found
  rw [Ordered.find?_insert_self] at found
  exact .inr ⟨items, (Option.some.inj found).symm, leads⟩

theorem slot?_false : slot? false key object = Ordered.find? key object := by
  simp [slot?]

/-- An edit of strings. -/
def OfStrings (f : Edit σ) : Prop :=
  ∀ d s d' s', f d s = (.ok d', s') → (∃ text, d = .string text) ∧ ∃ text, d' = .string text

variable {f : Edit σ} {walked : FieldPath} {s : σ}

/-- What an edit at a path that creates nothing has done to the slot of its first key. -/
theorem editFrom_eq_done (ran : (editFrom false f walked (key :: path) object s).1 = .done object') :
    (Ordered.find? key object = none ∧ object' = object) ∨
    (path = [] ∧ ∃ d d' s', Ordered.find? key object = some d ∧ f d s = (.ok d', s') ∧
      object' = Ordered.insert key d' object) ∨
    (∃ fields fields', Ordered.find? key object = some (.map fields) ∧ path ≠ [] ∧
      (editFrom false f (walked ++ [key]) path fields s).1 = .done fields' ∧
      object' = Ordered.insert key (.map fields') object) ∨
    ∃ items items', Ordered.find? key object = some (.list items) ∧ path ≠ [] ∧
      List.Forall₂ (fun d d' => ∃ fields fields' s', d = .map fields ∧ d' = .map fields' ∧
        (editFrom false f (walked ++ [key]) path fields s').1 = .done fields') items items' ∧
      object' = Ordered.insert key (.list items') object := by
  cases path with
  | nil =>
    rw [editFrom, slot?_false] at ran
    split at ran
    · next absent =>
      cases ran
      exact .inl ⟨absent, rfl⟩
    · next d found =>
      split at ran
      · next d' s' edited =>
        cases ran
        exact .inr (.inl ⟨rfl, d, d', s', found, edited, rfl⟩)
      · simp [Progress.stopped, Progress.done] at ran
  | cons next rest =>
    rw [editFrom, slot?_false] at ran
    dsimp only at ran
    split at ran
    · next absent =>
      cases ran
      exact .inl ⟨absent, rfl⟩
    · next fields found =>
      dsimp only at ran
      obtain ⟨fields', inside, rfl⟩ := Progress.map_eq_done.mp ran
      exact .inr (.inr (.inl ⟨fields, fields', found, by simp, inside, rfl⟩))
    · next items found =>
      dsimp only at ran
      obtain ⟨items', inside, rfl⟩ := Progress.map_eq_done.mp ran
      have each := editItems_done (congrArg Progress.error? inside)
      rw [inside] at each
      refine .inr (.inr (.inr ⟨items, items', found, by simp, each.imp ?_, rfl⟩))
      rintro d d' ⟨fields, s', rfl, unstopped, rfl⟩
      exact ⟨fields, _, s', rfl, rfl, Progress.eq_done unstopped⟩
    · simp [Progress.stopped, Progress.done] at ran

/-- Where an edit of strings has succeeded, its path leads to strings. -/
theorem leads_of_editFrom (texts : OfStrings f)
    (ran : (editFrom false f walked path object s).1 = .done object') : Leads path object' := by
  induction path generalizing walked object object' s with
  | nil => trivial
  | cons key path ih =>
    rcases editFrom_eq_done ran with ⟨absent, rfl⟩ | ⟨rfl, d, d', s', -, edited, rfl⟩ |
      ⟨fields, fields', -, more, inside, rfl⟩ | ⟨items, items', -, more, inside, rfl⟩
    · have nothing : ∀ d, Ordered.find? key object' ≠ some d := by simp [absent]
      cases path with
      | nil => exact fun d found => absurd found (nothing d)
      | cons next rest => exact fun d found => absurd found (nothing d)
    · obtain ⟨-, text, rfl⟩ := texts d s d' s' edited
      exact leads_insert_string text
    · obtain ⟨next, rest, rfl⟩ := List.exists_cons_of_ne_nil more
      exact leads_insert_map (ih inside)
    · obtain ⟨next, rest, rfl⟩ := List.exists_cons_of_ne_nil more
      refine leads_insert_list fun item member => ?_
      obtain ⟨-, -, fields, fields', s', -, rfl, ran⟩ := exists_of_mem_right inside member
      exact ⟨fields', rfl, ih ran⟩

/-- An edit of strings changes nothing about where paths lead. -/
theorem Leads.of_editFrom (texts : OfStrings f) (leads : Leads other object)
    (ran : (editFrom false f walked path object s).1 = .done object') : Leads other object' := by
  induction path generalizing other walked object object' s with
  | nil =>
    cases ran
    exact leads
  | cons key path ih =>
    cases other with
    | nil => trivial
    | cons key' other =>
      by_cases same : key' = key
      · subst same
        -- Under the common key, a string, a map or a list has been edited, and the other path goes
        -- through the same.
        rcases editFrom_eq_done ran with ⟨absent, rfl⟩ | ⟨rfl, d, d', s', found, edited, rfl⟩ |
          ⟨fields, fields', found, more, inside, rfl⟩ | ⟨items, items', found, more, inside, rfl⟩
        · exact leads
        · obtain ⟨⟨before, rfl⟩, after, rfl⟩ := texts d s d' s' edited
          cases other with
          | nil => exact leads_insert_string after
          | cons next rest =>
            rcases leads _ found with ⟨_, impossible, -⟩ | ⟨_, impossible, -⟩ <;> contradiction
        · cases other with
          | nil =>
            obtain ⟨_, impossible⟩ := leads _ found
            contradiction
          | cons next rest =>
            rcases leads _ found with ⟨_, ⟨⟩, deeper⟩ | ⟨_, impossible, -⟩
            · exact leads_insert_map (ih deeper inside)
            · contradiction
        · cases other with
          | nil =>
            obtain ⟨_, impossible⟩ := leads _ found
            contradiction
          | cons next rest =>
            rcases leads _ found with ⟨_, impossible, -⟩ | ⟨_, ⟨⟩, deeper⟩
            · contradiction
            · refine leads_insert_list fun item member => ?_
              obtain ⟨_, before, fields, fields', s', rfl, rfl, ran⟩ := exists_of_mem_right inside member
              obtain ⟨_, ⟨⟩, deeper⟩ := deeper _ before
              exact ⟨fields', rfl, ih deeper ran⟩
      · refine (leads_congr ?_).mpr leads
        have reached : object' = (editFrom false f walked (key :: path) object s).1.reached := by
          rw [ran]
          rfl
        rcases editFrom_reached false f walked key path object s with unchanged | ⟨d, changed⟩
        · rw [reached, unchanged]
        · rw [reached, changed, Ordered.find?_insert_of_ne _ _ _ _ same]

variable {P : BuildError → Prop}

theorem editItems_idle {inside : Fields → σ → Progress BuildError Fields × σ} {items : List Document}
    (each : ∀ item ∈ items, ∃ fields, item = .map fields ∧ ∀ s, Idle P fields (inside fields s).1)
    (index : Nat) (s : σ) : Idle P items (editItems inside walked index items s).1 := by
  induction items generalizing index s with
  | nil => exact .inl rfl
  | cons d rest ih =>
    rw [List.forall_mem_cons] at each
    obtain ⟨⟨fields, rfl, idle⟩, later⟩ := each
    rw [editItems]
    have here := idle s
    split
    · next reached e s' ran =>
      rw [ran] at here
      rcases here with done | ⟨_, _, ⟨⟩, holds⟩
      · simp [Progress.done] at done
      · exact .inr ⟨_, e, rfl, holds⟩
    · next reached s' ran =>
      rw [ran] at here
      rcases here with done | ⟨_, _, stopped, -⟩
      · obtain rfl : reached = fields := congrArg Progress.reached done
        exact (ih later (index + 1) s').map rfl
      · simp [Progress.stopped] at stopped

/-- Where a path leads to strings, an edit that gives back what it gets changes nothing. -/
theorem editFrom_idle (wraps : ∀ path e, P e → P (.atField path e))
    (same : ∀ text s, (∃ s', f (.string text) s = (.ok (.string text), s')) ∨
      ∃ e s', f (.string text) s = (.error e, s') ∧ P e)
    (sorted : (Document.map object).Sorted) (leads : Leads path object) :
    Idle P object (editFrom false f walked path object s).1 := by
  induction path generalizing walked object s with
  | nil => exact .inl rfl
  | cons key path ih =>
    have ascending := (Document.sorted_map_iff.mp sorted).1
    cases path with
    | nil =>
      rw [editFrom, slot?_false]
      split
      · exact .inl rfl
      · next d found =>
        obtain ⟨text, rfl⟩ := leads d found
        rcases same text s with ⟨s', edited⟩ | ⟨e, s', edited, holds⟩
        · rw [edited]
          exact .inl (congrArg Progress.done (Ordered.insert_of_find? ascending found))
        · rw [edited]
          exact .inr ⟨_, _, rfl, wraps _ e holds⟩
    | cons next rest =>
      rw [editFrom, slot?_false]
      dsimp only
      split
      · exact .inl rfl
      · next fields found =>
        rcases leads _ found with ⟨_, ⟨⟩, deeper⟩ | ⟨_, impossible, -⟩
        · dsimp only
          refine Progress.Idle.map (ih (sorted.field found) deeper) ?_
          exact Ordered.insert_of_find? ascending found
        · contradiction
      · next items found =>
        rcases leads _ found with ⟨_, impossible, -⟩ | ⟨_, ⟨⟩, deeper⟩
        · contradiction
        · dsimp only
          refine Progress.Idle.map (editItems_idle (fun item member => ?_) 0 s) ?_
          · obtain ⟨fields, rfl, leads⟩ := deeper item member
            exact ⟨fields, rfl, fun s =>
              ih (Document.sorted_list_iff.mp (sorted.field found) _ member) leads⟩
          · exact Ordered.insert_of_find? ascending found
      · next d noMap noList found =>
        rcases leads _ found with ⟨fields, rfl, -⟩ | ⟨items, rfl, -⟩
        · exact absurd rfl (noMap fields)
        · exact absurd rfl (noList items)

end FieldPath

/-! ## The reference pass -/

/-- Several resources answered to a name. -/
def BuildError.Ambiguous (e : BuildError) : Prop :=
  ∃ name candidates, e.rootCause = .ambiguousReference name candidates

/-- The content is a map in which a path leads to strings. -/
def Resource.Leads (path : FieldPath) (r : Resource) : Prop :=
  ∃ fields, r.object = .map fields ∧ path.Leads fields

namespace Pass

open FieldPath (OfStrings leads_of_editFrom editFrom_idle)

variable {rule : PathRule} {f : String → Except BuildError String} {r r' : Resource} {P : BuildError → Prop}

theorem ofStrings_onString : OfStrings (Edit.chain [Edit.pure (onString f rule)]) := by
  intro d s d' s' edited
  rw [chain_pure] at edited
  obtain ⟨text, text', rfl, -, rfl⟩ := onString_eq_ok.mp (Prod.mk.inj edited).1
  exact ⟨⟨text, rfl⟩, text', rfl⟩

theorem updateAt_leads (keeps : rule.create = false) (ran : updateAt rule (onString f rule) r = .done r') :
    r'.Leads rule.path := by
  obtain ⟨fields, fields', -, rfl, done⟩ := updateAt_eq_done ran
  rw [keeps] at done
  exact ⟨fields', rfl, leads_of_editFrom ofStrings_onString done⟩

theorem leads_of_updateAt {path : FieldPath} (keeps : rule.create = false) (leads : r.Leads path)
    (ran : updateAt rule (onString f rule) r = .done r') : r'.Leads path := by
  obtain ⟨fields, fields', object, rfl, done⟩ := updateAt_eq_done ran
  obtain ⟨_, object', leads⟩ := leads
  cases object.symm.trans object'
  rw [keeps] at done
  exact ⟨fields', rfl, leads.of_editFrom ofStrings_onString done⟩

theorem updateAt_idle (wraps : ∀ path e, P e → P (.atField path e)) (keeps : rule.create = false)
    (same : ∀ text, f text = .ok text ∨ ∃ e, f text = .error e ∧ P e) (sorted : r.object.Sorted)
    (leads : r.Leads rule.path) : Idle P r (updateAt rule (onString f rule) r) := by
  obtain ⟨fields, object, leads⟩ := leads
  have back : { r with object := Document.map fields } = r := by rw [← object]
  rw [object] at sorted
  rw [updateAt, object]
  dsimp only
  rw [FieldPath.update, FieldPath.edit, keeps]
  refine Progress.Idle.map (editFrom_idle wraps (fun text s => ?_) sorted leads) back
  rw [chain_pure]
  rcases same text with found | ⟨e, failed, holds⟩
  · exact .inl ⟨s, by rw [onString, found]; rfl⟩
  · exact .inr ⟨e, s, by rw [onString, failed]; rfl, holds⟩

theorem lookupsFor_create {type : GroupVersionKind} {e : GroupVersionKind × PathRule}
    (member : e ∈ lookupsFor type) : e.2.create = false :=
  (ReferenceRule.lookups_ofKind e (ReferenceRule.mem_lookupsFor.mp member).1).2.2.1

theorem lookups_leads {targets : List (Identity × String)} {l : List (GroupVersionKind × PathRule)}
    (keeps : ∀ e ∈ l, e.2.create = false)
    (ran : Progress.sequence (fun e => updateAt e.2 (onString (resolve targets e.1) e.2)) l r = .done r') :
    (∀ path, r.Leads path → r'.Leads path) ∧ ∀ e ∈ l, r'.Leads e.2.path := by
  induction l generalizing r with
  | nil =>
    cases ran
    exact ⟨fun _ leads => leads, by simp⟩
  | cons e rest ih =>
    rw [List.forall_mem_cons] at keeps ⊢
    obtain ⟨between, here, later⟩ := Progress.sequence_cons_eq_done.mp ran
    obtain ⟨kept, rest⟩ := ih keeps.2 later
    refine ⟨fun path leads => kept path (leads_of_updateAt keeps.1 leads here), ?_, rest⟩
    exact kept _ (updateAt_leads keeps.1 here)

variable {c c' : Collection}

theorem nameReference_leads (ran : (nameReference references).run c = .done c') :
    Collection.Pointwise (fun id _ r' => ∀ path ∈ referencePaths id.type, r'.Leads path) c c' := by
  refine (eachResource_eq_done.mp ran).mono fun id r r' done path member => ?_
  rw [sequence_lookups] at done
  obtain ⟨e, applied, rfl⟩ := ReferenceRule.mem_referencePaths.mp member
  exact (lookups_leads (fun _ => lookupsFor_create) done).2 e applied

theorem editEntries_idle {g : Identity → Resource → Progress BuildError Resource}
    {entries : List Entry} (each : ∀ e ∈ entries, Idle P e.2 (g e.1 e.2)) :
    Idle P entries (Collection.editEntries g entries) := by
  induction entries with
  | nil => exact .inl rfl
  | cons e rest ih =>
    rw [List.forall_mem_cons] at each
    rw [Collection.editEntries]
    rcases each.1 with here | ⟨reached, e', here, holds⟩
    · rw [here]
      exact (ih each.2).map rfl
    · rw [here]
      exact .inr ⟨_, e', rfl, holds⟩

theorem eachResource_idle (wraps : ∀ id e, P e → P (.inResource id e))
    {g : Identity → Resource → Progress BuildError Resource}
    (each : ∀ id r, c.find? id = some r → Idle P r (g id r)) : Idle P c (eachResource g c) := by
  have entries : Idle P c.entries (Collection.editEntries (fun id r =>
      let p := g id r
      ⟨p.reached, p.error?.map (.inResource id)⟩) c.entries) := by
    refine editEntries_idle fun e member => ?_
    rcases each e.1 e.2 (Collection.mem_entries.mp member) with here | ⟨reached, e', here, holds⟩
    · rw [here]
      exact .inl rfl
    · rw [here]
      exact .inr ⟨reached, _, rfl, wraps e.1 e' holds⟩
  rw [eachResource, Collection.edit]
  rcases entries with done | ⟨reached, e, stopped, holds⟩
  · left
    simp only [done]
    rfl
  · right
    simp only [stopped]
    exact ⟨_, e, rfl, holds⟩

/-- Where targets are named as they are declared, a look-up gives back the name or finds several. -/
theorem resolve_idle {targets : List (Identity × String)} (declared : ∀ t ∈ targets, t.2 = t.1.name)
    (selector : GroupVersionKind) (name : String) :
    resolve targets selector name = .ok name ∨
      ∃ e, resolve targets selector name = .error e ∧ e.Ambiguous := by
  rw [resolve]
  split
  · exact .inl rfl
  · next id current one =>
    have member : (id, current) ∈ targets.filter fun t => t.1.name == name && t.1.type.isSelectedBy selector := by
      rw [one]
      exact List.mem_singleton_self _
    obtain ⟨inside, selected⟩ := List.mem_filter.mp member
    rw [Bool.and_eq_true, beq_iff_eq] at selected
    have same : current = id.name := declared _ inside
    exact .inl (congrArg Except.ok (same.trans selected.1))
  · next candidates _ _ => exact .inr ⟨_, rfl, name, _, rfl⟩

/-- Where resources are named as they are declared and all paths of the table lead to strings, the
pass changes nothing, or a reference is ambiguous. -/
theorem nameReference_idle (declared : c.All fun id r => ∀ name, r.name? = some name → name = id.name)
    (sorted : c.All fun _ r => r.object.Sorted)
    (leads : c.All fun id r => ∀ path ∈ referencePaths id.type, r.Leads path) :
    Idle BuildError.Ambiguous c ((nameReference references).run c) := by
  have targets : ∀ t ∈ namedResources c, t.2 = t.1.name := by
    intro t member
    obtain ⟨r, held, named⟩ := mem_namedResources.mp member
    exact declared t.1 r held t.2 named
  refine eachResource_idle (fun _ _ ambiguous => ambiguous) fun id r held => ?_
  rw [sequence_lookups]
  refine Progress.Idle.sequence fun e member => ?_
  refine updateAt_idle (fun _ _ ambiguous => ambiguous) (lookupsFor_create member)
    (resolve_idle targets e.1) (sorted id r held) (leads id r held _ ?_)
  exact ReferenceRule.mem_referencePaths.mpr ⟨e, member, rfl⟩

end Pass

end KubeOverlay
