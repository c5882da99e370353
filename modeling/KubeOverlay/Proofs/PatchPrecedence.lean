import KubeOverlay.Proofs.Merging
/-!
# What a patch says

A patch wins where it speaks and changes nothing where it is silent (`Patch.merge_precedence`). A scalar
of the patch stands in the result at the same path, whatever the base holds there, unless a map on the
way removes its target (`Patch.mergeValue_sets`). Where the maps of patch and base lead to a key that the
patch has no entry for, the result holds what the base holds (`Patch.mergeFields_silent`).
-/
namespace KubeOverlay.Patch

variable {type : GroupVersionKind} {field : Option String} {walked key : String} {path : FieldPath}
  {patch base : Fields} {d merged : Document}

/-- A map of a patch holds a scalar at the end of a path, and no map on the way below it removes its
target. -/
inductive Sets : (patch : Fields) → FieldPath → Document → Prop
  | here {patch : Fields} {key : String} {d : Document} (stored : Ordered.find? key patch = some d)
      (scalar : d.isScalar) : Sets patch [key] d
  | deeper {patch inner : Fields} {key : String} {path : FieldPath} {d : Document}
      (stored : Ordered.find? key patch = some (.map inner)) (kept : directive? inner ≠ some "delete")
      (inside : Sets inner path d) : Sets patch (key :: path) d

/-- Down a path through maps of a patch and maps of its base, none of which replaces or removes its
target, the patch comes to have no entry for the next key. -/
inductive Silent : (patch base : Fields) → FieldPath → Prop
  | here {patch base : Fields} {key : String} {path : FieldPath}
      (absent : Ordered.find? key patch = none) : Silent patch base (key :: path)
  | deeper {patch base inner held : Fields} {key : String} {path : FieldPath}
      (stored : Ordered.find? key patch = some (.map inner)) (target : Ordered.find? key base = some (.map held))
      (merges : directive? inner ≠ some "replace") (kept : directive? inner ≠ some "delete")
      (inside : Silent inner held path) : Silent patch base (key :: path)

/-- A map that does not remove its target stays. -/
theorem stays_map {inner : Fields} (kept : directive? inner ≠ some "delete") : stays (key, .map inner) := by
  simp [stays, isDelete, kept, Document.kind]

/-! ## Where a patch speaks -/

theorem Sets.at? (sets : Sets patch path d) : (Document.map patch).at? (path.map .key) = some d := by
  induction sets with
  | here stored scalar => simp [stored]
  | deeper stored kept inside ih => rw [List.map_cons, Document.at?_key_map, stored, Option.bind_some, ih]

theorem Sets.isScalar (sets : Sets patch path d) : d.isScalar := by
  induction sets with
  | here stored scalar => exact scalar
  | deeper stored kept inside ih => exact ih

theorem strip_scalar (scalar : d.isScalar) : strip d = d := by
  cases d <;> simp [Document.isScalar, strip] at scalar ⊢

/-- Without directives, a patch holds the same scalars. -/
theorem Sets.at?_strip (sets : Sets patch path d) (named : directiveKey ∉ path) :
    (strip (.map patch)).at? (path.map .key) = some d := by
  rw [Patch.at?_strip, Position.keys_map_key, if_neg named, sets.at?, Option.map_some,
    strip_scalar sets.isScalar]

/-- What a patch sets stands in what it is merged onto. -/
theorem mergeValue_sets (sorted : (Document.map patch).Sorted) (named : directiveKey ∉ path)
    (sets : Sets patch path d) {target : Document}
    (ran : mergeValue type field walked (.map patch) target = .ok merged) :
    merged.at? (path.map .key) = some d := by
  induction sets generalizing field walked target merged with
  | @here patch key d stored scalar =>
    rcases mergeValue_map_cases ran with ⟨rfl, -⟩ | ⟨b, m, rfl, -, merges, rfl⟩
    · exact (Sets.here stored scalar).at?_strip named
    · have ascending := (Document.sorted_map_iff.mp sorted).1
      have result := mergeFields_field ascending (Ne.symm (List.ne_of_not_mem_cons named)) merges
      rw [stored, mergedField_scalar scalar] at result
      simp [← Except.ok.inj result]
  | @deeper patch inner key path d stored kept inside ih =>
    rcases mergeValue_map_cases ran with ⟨rfl, -⟩ | ⟨b, m, rfl, -, merges, rfl⟩
    · exact (Sets.deeper stored kept inside).at?_strip named
    · have ascending := (Document.sorted_map_iff.mp sorted).1
      obtain ⟨differs, named'⟩ := not_or.mp (List.mem_cons.not.mp named)
      have result := mergeFields_field ascending (Ne.symm differs) merges
      rw [stored] at result
      rw [List.map_cons, Document.at?_key_map]
      cases held : Ordered.find? key b with
      | none =>
        rw [held, mergedField_missing (stays_map kept)] at result
        rw [← Except.ok.inj result]
        exact inside.at?_strip named'
      | some target =>
        rw [held, mergedField_onto (stays_map kept)] at result
        obtain ⟨value, here, same⟩ := map_eq_ok.mp result
        rw [← same]
        exact ih (sorted.field stored) named' here

/-! ## Where a patch is silent -/

/-- Where a patch is silent, the fields that it is merged onto are as they were. -/
theorem mergeFields_silent (sorted : (Document.map patch).Sorted) (named : directiveKey ∉ path)
    (silent : Silent patch base path) {m : Fields} (ran : mergeFields type walked patch base = .ok m) :
    (Document.map m).at? (path.map .key) = (Document.map base).at? (path.map .key) := by
  induction silent generalizing walked m with
  | @here patch base key path absent =>
    have ascending := (Document.sorted_map_iff.mp sorted).1
    have differs := List.ne_of_not_mem_cons named
    have result := mergeFields_field ascending (Ne.symm differs) ran
    rw [absent] at result
    have same : Ordered.find? key base = Ordered.find? key m := Except.ok.inj result
    rw [List.map_cons, Document.at?_key_map, Document.at?_key_map, same]
  | @deeper patch base inner held key path stored target merges kept inside ih =>
    have ascending := (Document.sorted_map_iff.mp sorted).1
    obtain ⟨differs, named'⟩ := not_or.mp (List.mem_cons.not.mp named)
    have result := mergeFields_field ascending (Ne.symm differs) ran
    rw [stored, target, mergedField_onto (stays_map kept)] at result
    obtain ⟨value, here, same⟩ := map_eq_ok.mp result
    rcases mergeValue_map_cases here with ⟨-, replaces | noMap⟩ | ⟨_, m', ⟨⟩, -, further, rfl⟩
    · exact absurd replaces merges
    · contradiction
    · rw [List.map_cons, Document.at?_key_map, Document.at?_key_map, ← same, target]
      exact ih (sorted.field stored) named' further

/-! ## Both together -/

/-- A patch wins where it speaks and changes nothing where it is silent. -/
theorem merge_precedence (sorted : (Document.map patch).Sorted) (named : directiveKey ∉ path)
    (ran : merge type (.map base) (.map patch) = .ok merged) :
    (∀ d, Sets patch path d → merged.at? (path.map .key) = some d) ∧
    (directive? patch ≠ some "replace" → Silent patch base path →
      merged.at? (path.map .key) = (Document.map base).at? (path.map .key)) := by
  refine ⟨fun d sets => mergeValue_sets sorted named sets ran, fun merges silent => ?_⟩
  rcases mergeValue_map_cases ran with ⟨-, replaces | noMap⟩ | ⟨_, m, ⟨⟩, -, fields, rfl⟩
  · exact absurd replaces merges
  · contradiction
  · exact mergeFields_silent sorted named silent fields

/-- A Deployment with a label and one replica. -/
def shopFields : Fields :=
  [("kind", .string "Deployment"), ("metadata", .map [("labels", .map [("tier", .string "web")])]),
    ("spec", .map [("replicas", .number (.int 1))])]

/-- A patch that sets a label and the replicas. -/
def scalingFields : Fields :=
  [("metadata", .map [("labels", .map [("app", .string "shop")])]),
    ("spec", .map [("replicas", .number (.int 3))])]

/-- The replicas are those of the patch, and the label that the patch does not name stays. -/
theorem scaling_precedence :
    ∃ merged, merge ⟨"apps", "v1", "Deployment"⟩ (.map shopFields) (.map scalingFields) = .ok merged ∧
      merged.at? [.key "spec", .key "replicas"] = some (.number (.int 3)) ∧
      merged.at? [.key "metadata", .key "labels", .key "tier"] = some (.string "web") := by
  obtain ⟨merged, ran⟩ : ∃ merged,
      merge ⟨"apps", "v1", "Deployment"⟩ (.map shopFields) (.map scalingFields) = .ok merged := ⟨_, rfl⟩
  refine ⟨merged, ran, ?_, ?_⟩
  · have sets : Sets scalingFields ["spec", "replicas"] (.number (.int 3)) :=
      .deeper rfl (by decide) (.here rfl rfl)
    exact (merge_precedence (by decide) (by decide) ran).1 _ sets
  · have silent : Silent scalingFields shopFields ["metadata", "labels", "tier"] :=
      .deeper rfl rfl (by decide) (by decide) (.deeper rfl rfl (by decide) (by decide) (.here rfl))
    exact (merge_precedence (by decide) (by decide) ran).2 (by decide) silent

end KubeOverlay.Patch
