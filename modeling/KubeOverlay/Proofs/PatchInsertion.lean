import KubeOverlay.Proofs.Merging
/-!
# Patch values without a target

A value of a patch whose target is missing is stored without its directives (`strip`), where the same
value would be merged onto an empty target. The two agree only on values in which nothing is left to
merge (`merge_missing_eq_merge_empty_iff`): inside a value that is stored, null removes nothing, and
neither `$patch: delete` nor an unknown directive has an effect, at any depth.
-/
namespace KubeOverlay

/-- What is left of a list under a map is all of it exactly if nothing is left out. -/
theorem map_filter_eq_map_iff {α β : Type} {f : α → β} {keep : α → Bool} {l : List α} :
    (l.filter keep).map f = l.map f ↔ ∀ a ∈ l, keep a := by
  constructor
  · intro same
    have lengths := congrArg List.length same
    rw [List.length_map, List.length_map] at lengths
    exact List.length_filter_eq_length_iff.mp lengths
  · intro all
    rw [List.filter_eq_self.mpr all]

namespace Patch

/-! ## Maps -/

variable {type : GroupVersionKind} {key : String} {v : Document}

/-- Merged after all keys of a map, the fields that stay are stored without directives. -/
theorem mergeFields_of_below {path : String} {fields base : Fields}
    (ascending : Ordered.Ascending fields) (below : ∀ b ∈ base, ∀ e ∈ fields, compare b.1 e.1 = .lt) :
    mergeFields type path fields base = .ok (base ++ stripFields (fields.filter stays)) := by
  rw [mergeFields_eq_foldlM]
  induction fields generalizing base with
  | nil =>
    rw [List.filter_nil, stripFields, List.append_nil]
    rfl
  | cons e rest ih =>
    obtain ⟨key, d⟩ := e
    obtain ⟨above, tail⟩ := List.pairwise_cons.mp ascending
    have belowKey : ∀ b ∈ base, compare b.1 key = .lt := fun b member => below b member _ List.mem_cons_self
    have belowRest : ∀ b ∈ base, ∀ e ∈ rest, compare b.1 e.1 = .lt :=
      fun b member e later => below b member e (List.mem_cons_of_mem _ later)
    rw [foldlM_cons_eq_ok]
    by_cases directive : key = directiveKey
    · subst directive
      refine ⟨base, mergeField_directive, (ih tail belowRest).trans ?_⟩
      by_cases kept : stays (directiveKey, d)
      · rw [List.filter_cons_of_pos kept, stripFields, if_pos (by simp)]
      · rw [List.filter_cons_of_neg kept]
    · by_cases kept : stays (key, d)
      · refine ⟨base ++ [(key, strip d)], ?_, (ih tail fun b member e later => ?_).trans ?_⟩
        · rw [mergeField_missing directive kept (Ordered.find?_of_below belowKey),
            Ordered.insert_of_below (strip d) belowKey]
        · rcases List.mem_append.mp member with old | new
          · exact belowRest b old e later
          · rw [List.mem_singleton.mp new]
            exact above e later
        · rw [List.filter_cons_of_pos kept, stripFields, if_neg (by simpa using directive),
            List.append_assoc, List.singleton_append]
      · refine ⟨base, ?_, (ih tail belowRest).trans ?_⟩
        · rw [mergeField_removed directive (by simpa using kept), Ordered.erase_of_below belowKey]
        · rw [List.filter_cons_of_neg kept]

/-- All fields are stored if all but the directive stay. -/
theorem stripFields_filter_stays_iff {fields : Fields} :
    stripFields (fields.filter stays) = stripFields fields ↔
      ∀ e ∈ fields, e.1 ≠ directiveKey → stays e := by
  have swap : (fields.filter stays).filter (·.1 != directiveKey) =
      (fields.filter (·.1 != directiveKey)).filter stays := by
    rw [List.filter_filter, List.filter_filter]
    exact List.filter_congr fun e _ => Bool.and_comm ..
  rw [stripFields_eq_map, stripFields_eq_map, swap, map_filter_eq_map_iff]
  simp

/-! ## Patches of one field -/

/-- A patch of one field that is no directive merges the field. -/
theorem merge_field (named : key ≠ directiveKey) (base : Fields) :
    merge type (.map base) (.map [(key, v)]) = (mergeField type "" base (key, v)).map .map := by
  have apart : compare directiveKey key ≠ .eq := fun same => named (Std.LawfulEqCmp.eq_of_compare same).symm
  have directive : directive? [(key, v)] = none := by
    rw [directive?, Ordered.find?, if_neg apart]
    rfl
  rw [merge, mergeValue, directive]
  dsimp only
  rw [mergeFields_eq_foldlM, List.foldlM_cons]
  cases mergeField type "" base (key, v) <;> rfl

/-- A field whose target is missing is stored without directives. -/
theorem merge_missing (named : key ≠ directiveKey) (kept : stays (key, v)) :
    merge type (.map []) (.map [(key, v)]) = .ok (.map [(key, strip v)]) := by
  rw [merge_field named, mergeField_missing named kept rfl]
  rfl

/-- A field whose target is there is merged onto it. -/
theorem merge_present (named : key ≠ directiveKey) (kept : stays (key, v)) (d : Document) :
    merge type (.map [(key, d)]) (.map [(key, v)]) =
      (mergeValue type (some key) (fieldPath "" key) v d).map fun merged => .map [(key, merged)] := by
  have self : compare key key = .eq := Std.ReflCmp.compare_self
  have found : Ordered.find? key [(key, d)] = some d := by rw [Ordered.find?, if_pos self]
  rw [merge_field named, mergeField_onto named kept found]
  cases mergeValue type (some key) (fieldPath "" key) v d with
  | error e => rfl
  | ok merged =>
    have stored : Ordered.insert key merged [(key, d)] = [(key, merged)] := by rw [Ordered.insert, self]
    simp only [Functor.map, Except.map, stored]

/-- A field that removes its target leaves nothing of it. -/
theorem merge_removed (named : key ≠ directiveKey) (removed : stays (key, v) = false) (d : Document) :
    merge type (.map [(key, d)]) (.map [(key, v)]) = merge type (.map []) (.map [(key, v)]) := by
  have erased : Ordered.erase key [(key, d)] = [] := by
    simp [Ordered.erase, Std.ReflCmp.compare_self]
  rw [merge_field named, merge_field named, mergeField_removed named removed,
    mergeField_removed named removed, erased]
  rfl

/-- A directive that is no text is passed over. -/
theorem merge_passed (noText : v.string? = none) (base : Fields) :
    merge type (.map base) (.map [(directiveKey, v)]) = .ok (.map base) := by
  have directive : directive? [(directiveKey, v)] = none := by
    rw [directive?, Ordered.find?, if_pos (by decide), Option.bind_some, noText]
  rw [merge, mergeValue, directive]
  dsimp only
  rw [mergeFields_eq_foldlM, List.foldlM_cons, mergeField_directive]
  rfl

/-! ## Lists -/

/-- Every element of a patch adds at most one element. -/
theorem length_mergeItems_le {field : Option String} {path : String} {items base merged : List Document}
    (ran : mergeItems type field path key items base = .ok merged) :
    merged.length ≤ base.length + items.length := by
  rw [mergeItems_eq_foldlM] at ran
  induction items generalizing base with
  | nil =>
    cases ran
    simp
  | cons d rest ih =>
    obtain ⟨between, first, later⟩ := foldlM_cons_eq_ok.mp ran
    have bound := ih later
    have step : between.length ≤ base.length + 1 := by
      rcases mergeItem_cases first with ⟨-, rfl⟩ | ⟨before, b, after, m, -, rfl, -, -, rfl⟩ | ⟨-, -, rfl⟩
      · exact Nat.le_succ_of_le (List.length_filter_le ..)
      · simp
      · simp
    rw [List.length_cons]
    omega

/-- All elements are added without directives exactly if none is removed and none is merged onto one
that is there already, be it of the base or added before. -/
theorem mergeItems_eq_append_iff {field : Option String} {path : String} {items base : List Document} :
    mergeItems type field path key items base = .ok (base ++ stripItems items) ↔
      (∀ d ∈ items, isDelete d = false) ∧
      (items.Pairwise fun a b => hasKeyValue key (b.field? key) (strip a) = false) ∧
      ∀ b ∈ base, ∀ d ∈ items, hasKeyValue key (d.field? key) b = false := by
  induction items generalizing base with
  | nil =>
    rw [mergeItems, stripItems, List.append_nil]
    simp
  | cons d rest ih =>
    have length : (base ++ stripItems (d :: rest)).length = base.length + rest.length + 1 := by
      rw [List.length_append, stripItems_eq_map, List.length_map, List.length_cons]
      omega
    have added := @ih (base ++ [strip d])
    rw [List.append_assoc, List.singleton_append, mergeItems_eq_foldlM] at added
    rw [mergeItems_eq_foldlM, foldlM_cons_eq_ok, stripItems]
    simp only [List.mem_append, List.mem_singleton, List.forall_mem_cons, List.pairwise_cons] at added ⊢
    constructor
    · rintro ⟨between, first, later⟩
      have bound := length_mergeItems_le (mergeItems_eq_foldlM rest between ▸ later)
      rw [← stripItems, length] at bound
      -- Only an element that is added makes the list longer.
      rcases mergeItem_cases first with ⟨-, rfl⟩ | ⟨before, b, after, m, -, rfl, -, -, rfl⟩ |
        ⟨kept, unmatched, rfl⟩
      · have fewer := List.length_filter_le (!hasKeyValue key (d.field? key) ·) base
        omega
      · simp only [List.length_append, List.length_cons] at bound
        omega
      · obtain ⟨keptRest, apart, fresh⟩ := added.mp later
        exact ⟨⟨kept, keptRest⟩, ⟨fun b later => fresh _ (.inr rfl) b later, apart⟩,
          fun b old => ⟨unmatched b old, fun e later => fresh b (.inl old) e later⟩⟩
    · rintro ⟨⟨kept, keptRest⟩, ⟨first, apart⟩, fresh⟩
      refine ⟨base ++ [strip d], mergeItem_absent kept fun b old => (fresh b old).1, ?_⟩
      refine added.mpr ⟨keptRest, apart, fun b member e later => ?_⟩
      rcases member with old | rfl
      · exact (fresh b old).2 e later
      · exact first e later

/-! ## Missing and empty targets -/

/-- A map of a patch in which nothing is left to merge: it replaces its target, or removes it, or all
its fields stay. -/
def MapStoredAsMerged (fields : Fields) : Prop :=
  match directive? fields with
  | some "delete" | some "replace" => True
  | some "merge" | none => ∀ e ∈ fields, e.1 ≠ directiveKey → stays e
  | some _ => False

/-- A list of a patch in which nothing is left to merge: no element is removed and, where a key
identifies the elements, none is merged onto one before it. -/
def ListStoredAsMerged (type : GroupVersionKind) (key : String) (items : List Document) : Prop :=
  (∀ d ∈ items, isDelete d = false) ∧
    ∀ itemKey, mergeKey? type key = some itemKey → allKeyed itemKey items →
      items.Pairwise fun a b => hasKeyValue itemKey (b.field? itemKey) (strip a) = false

theorem ok_eq_map_iff {x : Except BuildError Document} {d : Document} :
    .ok (Document.map [(key, d)]) = x.map (fun merged => Document.map [(key, merged)]) ↔ x = .ok d := by
  cases x <;> simp [Except.map, eq_comm]

theorem mergeValue_empty_map_iff {field : Option String} {path : String} {fields : Fields}
    (ascending : Ordered.Ascending fields) (kept : isDelete (.map fields) = false) :
    mergeValue type field path (.map fields) (.map []) = .ok (strip (.map fields)) ↔
      MapStoredAsMerged fields := by
  have merged : mergeFields type path fields [] = .ok (stripFields (fields.filter stays)) :=
    mergeFields_of_below ascending (by simp)
  rw [mergeValue, MapStoredAsMerged, merged, strip]
  rw [isDelete] at kept
  split
  · next replaces => simp [replaces]
  · next deletes => simp [deletes] at kept
  · next merges =>
    rw [merges, ← stripFields_filter_stays_iff]
    simp [bind, Except.bind, pure, Except.pure]
  · next none =>
    rw [none, ← stripFields_filter_stays_iff]
    simp [bind, Except.bind, pure, Except.pure]
  · next other notReplace notDelete notMerge noOther stored =>
    refine iff_of_false (by simp) ?_
    rw [stored]
    split <;> simp_all

theorem mergeValue_empty_list_iff {path : String} {items : List Document} :
    mergeValue type (some key) path (.list items) (.list []) = .ok (strip (.list items)) ↔
      ListStoredAsMerged type key items := by
  have unkeyed : stripItems (items.filter (!isDelete ·)) = stripItems items ↔
      ∀ d ∈ items, isDelete d = false := by
    rw [stripItems_eq_map, stripItems_eq_map, map_filter_eq_map_iff]
    simp
  have keyed (itemKey : String) : mergeItems type (some key) path itemKey items [] = .ok (stripItems items) ↔
      (∀ d ∈ items, isDelete d = false) ∧
        items.Pairwise fun a b => hasKeyValue itemKey (b.field? itemKey) (strip a) = false := by
    simpa using @mergeItems_eq_append_iff type itemKey (some key) path items []
  rw [mergeValue, ListStoredAsMerged, strip, Option.bind_some]
  cases found : mergeKey? type key with
  | none => simp [unkeyed]
  | some itemKey =>
    by_cases all : allKeyed itemKey items
    · have chosen :
          (some itemKey).filter (fun key => allKeyed key [] && allKeyed key items) = some itemKey := by
        rw [Option.filter_some, all]
        rfl
      have wrapped (x : Except BuildError (List Document)) :
          (do return Document.list (← x)) = .ok (.list (stripItems items)) ↔ x = .ok (stripItems items) := by
        cases x <;> simp [bind, Except.bind, pure, Except.pure]
      rw [chosen]
      refine ((wrapped _).trans (keyed itemKey)).trans (and_congr_right fun _ => ?_)
      constructor
      · rintro apart other same -
        cases same
        exact apart
      · exact fun apart => apart itemKey rfl all
    · have none : (some itemKey).filter (fun key => allKeyed key [] && allKeyed key items) = none := by
        simp [all]
      rw [none]
      simp [unkeyed, all]

/-- A patch value means the same whether its target is missing or empty exactly if nothing in it is
left to merge. A value without a target is always stored, and at every position holds what stood
there in the patch, null and all, but for the entries of directives. -/
theorem merge_missing_eq_merge_empty_iff (type : GroupVersionKind) (key : String) :
    (∀ fields, Ordered.Ascending fields →
      (merge type (.map []) (.map [(key, .map fields)]) =
          merge type (.map [(key, .map [])]) (.map [(key, .map fields)]) ↔
        key ≠ directiveKey ∧ MapStoredAsMerged fields)) ∧
    (∀ items, merge type (.map []) (.map [(key, .list items)]) =
          merge type (.map [(key, .list [])]) (.map [(key, .list items)]) ↔
        key ≠ directiveKey ∧ ListStoredAsMerged type key items) ∧
    (∀ v, key ≠ directiveKey → stays (key, v) →
      merge type (.map []) (.map [(key, v)]) = .ok (.map [(key, strip v)]) ∧
        ∀ q : Position, (strip v).at? q = if directiveKey ∈ q.keys then none else (v.at? q).map strip) := by
  refine ⟨fun fields ascending => ?_, fun items => ?_, fun v named kept => ?_⟩
  · by_cases named : key = directiveKey
    · subst named
      rw [merge_passed rfl, merge_passed rfl]
      simp
    · rw [and_iff_right named]
      by_cases deletes : isDelete (.map fields)
      · have directive : directive? fields = some "delete" := by simpa [isDelete] using deletes
        rw [merge_removed named (by simp [stays, deletes])]
        simp [MapStoredAsMerged, directive]
      · have kept : isDelete (.map fields) = false := by simpa using deletes
        rw [merge_missing named (by simp [stays, kept, Document.kind]),
          merge_present named (by simp [stays, kept, Document.kind]), ok_eq_map_iff]
        exact mergeValue_empty_map_iff ascending kept
  · by_cases named : key = directiveKey
    · subst named
      rw [merge_passed rfl, merge_passed rfl]
      simp
    · rw [and_iff_right named, merge_missing named rfl, merge_present named rfl, ok_eq_map_iff]
      exact mergeValue_empty_list_iff
  · exact ⟨merge_missing named kept, fun q => at?_strip q v⟩

def configMapType : GroupVersionKind := ⟨"", "v1", "ConfigMap"⟩

/-- Data with nothing to remove is stored as it is merged; data with null is stored with it. -/
theorem data_stored :
    merge configMapType (.map []) (.map [("data", .map [("a", .string "b")])]) =
        merge configMapType (.map [("data", .map [])]) (.map [("data", .map [("a", .string "b")])]) ∧
      merge configMapType (.map []) (.map [("data", .map [("a", .null)])]) =
        .ok (.map [("data", strip (.map [("a", .null)]))]) := by
  have both := merge_missing_eq_merge_empty_iff configMapType "data"
  constructor
  · refine (both.1 _ (List.pairwise_singleton ..)).mpr ⟨by decide, ?_⟩
    intro e member _
    rw [List.mem_singleton.mp member]
    rfl
  · exact (both.2.2 (.map [("a", .null)]) (by decide) rfl).1

/-- Null in new data stays, where it would remove nothing from empty data. -/
theorem null_stored : merge configMapType (.map []) (.map [("data", .map [("a", .null)])]) ≠
    merge configMapType (.map [("data", .map [])]) (.map [("data", .map [("a", .null)])]) := by
  have missing : merge configMapType (.map []) (.map [("data", .map [("a", .null)])]) =
      .ok (.map [("data", .map [("a", .null)])]) := rfl
  have empty : merge configMapType (.map [("data", .map [])]) (.map [("data", .map [("a", .null)])]) =
      .ok (.map [("data", .map [])]) := rfl
  rw [missing, empty]
  simp

end Patch

end KubeOverlay
