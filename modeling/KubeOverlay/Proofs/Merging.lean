import KubeOverlay.Proofs.Pointwise
import KubeOverlay.Proofs.Position
/-!
# Steps of a merge

What is stored of a patch is its values without directives (`strip`), which hold at every position what
the patch holds there (`Patch.at?_strip`). What merging does with a map, a list, a field and an element
of a patch is one lemma each, and each says everything that can happen (`Patch.mergeValue_map_cases`,
`Patch.mergeValue_list_cases`, `Patch.mergeField_cases`, `Patch.mergeItem_cases`). The keys of a map are in
order, so every field is merged by itself (`Patch.mergeFields_field`). What values without directives
have, and what changes of entries and elements keep, everything has that a merge gives
(`Patch.KeptByMerging.mergeValue`).
-/
namespace KubeOverlay

/-- A string, a number or a boolean. -/
def Document.isScalar : Document → Bool
  | .string _ | .number _ | .bool _ => true
  | _ => false

namespace Patch

open Document (at?)

/-! ## Values without directives -/

theorem stripItems_eq_map (items : List Document) : stripItems items = items.map strip := by
  induction items with
  | nil => rfl
  | cons d rest ih => rw [stripItems, ih, List.map_cons]

theorem stripFields_eq_map (fields : Fields) :
    stripFields fields = (fields.filter (·.1 != directiveKey)).map fun e => (e.1, strip e.2) := by
  induction fields with
  | nil => rfl
  | cons e rest ih =>
    obtain ⟨key, d⟩ := e
    rw [stripFields]
    by_cases directive : key = directiveKey
    · simp [directive, ih]
    · simp [directive, ih]

theorem find?_stripFields (key : String) (fields : Fields) :
    Ordered.find? key (stripFields fields) =
      if key = directiveKey then none else (Ordered.find? key fields).map strip := by
  induction fields with
  | nil =>
    rw [stripFields]
    split <;> rfl
  | cons e rest ih =>
    obtain ⟨other, d⟩ := e
    rw [stripFields]
    by_cases directive : other = directiveKey
    · rw [if_pos (by simpa using directive), ih]
      split
      · rfl
      · next differ =>
        have apart : compare key other ≠ .eq := fun same =>
          differ ((Std.LawfulEqCmp.eq_of_compare same).trans directive)
        rw [Ordered.find?, if_neg apart]
    · rw [if_neg (by simpa using directive), Ordered.find?, Ordered.find?, ih]
      by_cases same : compare key other = .eq
      · have equal := Std.LawfulEqCmp.eq_of_compare same
        rw [if_pos same, if_pos same, if_neg (by rw [equal]; exact directive), Option.map_some]
      · rw [if_neg same, if_neg same]

/-- At every position, a value without directives holds what the value held, without directives. -/
theorem at?_strip (q : Position) (v : Document) :
    (strip v).at? q = if directiveKey ∈ q.keys then none else (v.at? q).map strip := by
  induction q generalizing v with
  | nil => simp
  | cons step q ih =>
    cases step with
    | key name =>
      cases v with
      | map fields =>
        rw [strip, Document.at?_key_map, Document.at?_key_map, find?_stripFields]
        by_cases directive : name = directiveKey
        · simp [directive]
        · rw [if_neg directive]
          have inside : directiveKey ∈ Position.keys (.key name :: q) ↔ directiveKey ∈ Position.keys q := by
            simp [Ne.symm directive]
          simp only [inside]
          cases Ordered.find? name fields with
          | none => simp
          | some d => exact ih d
      | _ => simp [strip, at?]
    | index i =>
      cases v with
      | list items =>
        rw [strip, Document.at?_index_list, Document.at?_index_list, stripItems_eq_map,
          List.getElem?_map, Position.keys_index]
        cases items[i]? with
        | none => simp
        | some d => exact ih d
      | _ => exact (ite_self none).symm

variable {type : GroupVersionKind} {field : Option String} {path key : String} {d : Document}

/-! ## Values -/

/-- A value that is neither a map nor a list replaces its target. -/
theorem mergeValue_simple {patch base : Document} (noMap : patch.fields? = none)
    (noList : patch.items? = none) : mergeValue type field path patch base = .ok (strip patch) := by
  cases patch with
  | map fields => contradiction
  | list items => contradiction
  | _ => rw [mergeValue] <;> simp

theorem strip_simple (noMap : d.fields? = none) (noList : d.items? = none) : strip d = d := by
  cases d with
  | map fields => contradiction
  | list items => contradiction
  | _ => rw [strip]

/-- A map of a patch is stored without directives if it replaces its target or this is no map, and
merged field by field onto the map that is there if not. -/
theorem mergeValue_map_cases {fields : Fields} {base merged : Document}
    (ran : mergeValue type field path (.map fields) base = .ok merged) :
    (merged = strip (.map fields) ∧ (directive? fields = some "replace" ∨ base.fields? = none)) ∨
      ∃ b m, base = .map b ∧ directive? fields ≠ some "replace" ∧
        mergeFields type path fields b = .ok m ∧ merged = .map m := by
  cases base with
  | map base =>
    rw [mergeValue] at ran
    have together (differs : directive? fields ≠ some "replace")
        (merging : (do return Document.map (← mergeFields type path fields base)) =
          Except.ok (ε := BuildError) merged) :
        ∃ b m, Document.map base = .map b ∧ directive? fields ≠ some "replace" ∧
          mergeFields type path fields b = .ok m ∧ merged = .map m := by
      obtain ⟨m, merges, last⟩ := bind_eq_ok.mp merging
      cases last
      exact ⟨base, m, rfl, differs, merges, rfl⟩
    split at ran
    · next replaces =>
      cases ran
      exact .inl ⟨by rw [strip], .inl replaces⟩
    · next deletes => exact .inr (together (by simp [deletes]) ran)
    · next merges => exact .inr (together (by simp [merges]) ran)
    · next none => exact .inr (together (by simp [none]) ran)
    · contradiction
  | _ =>
    rw [mergeValue] at ran
    · cases ran
      exact .inl ⟨rfl, .inr rfl⟩
    · simp
    · simp

/-- A list of a patch is stored without directives, with or without the elements that remove
something, or merged by a key onto the list that is there. -/
theorem mergeValue_list_cases {items : List Document} {base merged : Document}
    (ran : mergeValue type field path (.list items) base = .ok merged) :
    merged = strip (.list items) ∨ merged = .list (stripItems (items.filter (!isDelete ·))) ∨
      ∃ b key m, base = .list b ∧ mergeItems type field path key items b = .ok m ∧ merged = .list m := by
  cases base with
  | list base =>
    right
    rw [mergeValue] at ran
    split at ran
    · next key _ =>
      obtain ⟨m, merges, last⟩ := bind_eq_ok.mp ran
      cases last
      exact .inr ⟨base, key, m, rfl, merges, rfl⟩
    · cases ran
      exact .inl rfl
  | _ =>
    left
    rw [mergeValue] at ran
    · cases ran
      rfl
    · simp
    · simp

/-! ## Fields -/

/-- A field of a patch that does not remove its target. -/
def stays (e : String × Document) : Bool := !(e.2.kind == .null || isDelete e.2)

theorem stays_eq_true {e : String × Document} :
    stays e = true ↔ ¬ (e.2.kind == .null || isDelete e.2) = true := by
  rw [stays, Bool.not_eq_true', Bool.not_eq_true]

theorem stays_eq_false {e : String × Document} :
    stays e = false ↔ (e.2.kind == .null || isDelete e.2) = true := by
  rw [stays, Bool.not_eq_false']

/-- One field of a patch merged onto the fields of a map. -/
def mergeField (type : GroupVersionKind) (path : String) (base : Fields) (e : String × Document) :
    Except BuildError Fields :=
  if e.1 == directiveKey then .ok base
  else if e.2.kind == .null || isDelete e.2 then .ok (Ordered.erase e.1 base)
  else
    match Ordered.find? e.1 base with
    | some b => do
      let merged ← mergeValue type (some e.1) (fieldPath path e.1) e.2 b
      return Ordered.insert e.1 merged base
    | none => .ok (Ordered.insert e.1 (strip e.2) base)

theorem mergeFields_eq_foldlM (patch base : Fields) :
    mergeFields type path patch base = patch.foldlM (mergeField type path) base := by
  induction patch generalizing base with
  | nil =>
    rw [mergeFields, List.foldlM_nil]
    rfl
  | cons e rest ih =>
    obtain ⟨key, d⟩ := e
    rw [mergeFields, List.foldlM_cons, mergeField, ← funext ih]
    dsimp only
    by_cases directive : (key == directiveKey) = true
    · rw [if_pos directive, if_pos directive]
      rfl
    · rw [if_neg directive, if_neg directive]
      by_cases removed : (d.kind == .null || isDelete d) = true
      · rw [if_pos removed, if_pos removed]
        rfl
      · rw [if_neg removed, if_neg removed]
        cases Ordered.find? key base with
        | some b =>
          dsimp only
          cases mergeValue type (some key) (fieldPath path key) d b <;> rfl
        | none => rfl

theorem mergeField_directive {base : Fields} : mergeField type path base (directiveKey, d) = .ok base :=
  if_pos (beq_self_eq_true directiveKey)

theorem mergeField_removed (named : key ≠ directiveKey) (removed : stays (key, d) = false) (base : Fields) :
    mergeField type path base (key, d) = .ok (Ordered.erase key base) := by
  rw [mergeField, if_neg (by simpa using named), if_pos (stays_eq_false.mp removed)]

theorem mergeField_onto (named : key ≠ directiveKey) (kept : stays (key, d)) {base : Fields} {b : Document}
    (stored : Ordered.find? key base = some b) : mergeField type path base (key, d) =
      (Ordered.insert key · base) <$> mergeValue type (some key) (fieldPath path key) d b := by
  rw [mergeField, if_neg (by simpa using named), if_neg (stays_eq_true.mp kept), stored]
  dsimp only
  cases mergeValue type (some key) (fieldPath path key) d b <;> rfl

theorem mergeField_missing (named : key ≠ directiveKey) (kept : stays (key, d)) {base : Fields}
    (absent : Ordered.find? key base = none) :
    mergeField type path base (key, d) = .ok (Ordered.insert key (strip d) base) := by
  rw [mergeField, if_neg (by simpa using named), if_neg (stays_eq_true.mp kept), absent]

/-- A directive is passed over, a field that does not stay removes its target, and one that stays is
merged onto its target, or stored without directives where there is none. -/
theorem mergeField_cases {base merged : Fields} (ran : mergeField type path base (key, d) = .ok merged) :
    (key = directiveKey ∧ merged = base) ∨
    (key ≠ directiveKey ∧ stays (key, d) = false ∧ merged = Ordered.erase key base) ∨
    (key ≠ directiveKey ∧ stays (key, d) ∧ ∃ b value, Ordered.find? key base = some b ∧
      mergeValue type (some key) (fieldPath path key) d b = .ok value ∧
      merged = Ordered.insert key value base) ∨
    (key ≠ directiveKey ∧ stays (key, d) ∧ Ordered.find? key base = none ∧
      merged = Ordered.insert key (strip d) base) := by
  by_cases directive : key = directiveKey
  · subst directive
    cases ran.symm.trans mergeField_directive
    exact .inl ⟨rfl, rfl⟩
  · right
    cases kept : stays (key, d) with
    | false =>
      cases ran.symm.trans (mergeField_removed directive kept base)
      exact .inl ⟨directive, rfl, rfl⟩
    | true =>
      right
      cases stored : Ordered.find? key base with
      | none =>
        cases ran.symm.trans (mergeField_missing directive kept stored)
        exact .inr ⟨directive, rfl, rfl, rfl⟩
      | some b =>
        rw [mergeField_onto directive kept stored] at ran
        obtain ⟨value, here, rfl⟩ := map_eq_ok.mp ran
        exact .inl ⟨directive, rfl, b, value, rfl, here, rfl⟩

/-- What merging makes of one field, given what the patch and the base hold in it. -/
def mergedField (type : GroupVersionKind) (path key : String) (patch base : Option Document) :
    Except BuildError (Option Document) :=
  match patch with
  | none => .ok base
  | some d =>
    if d.kind == .null || isDelete d then .ok none
    else
      match base with
      | some b => some <$> mergeValue type (some key) (fieldPath path key) d b
      | none => .ok (some (strip d))

theorem mergedField_removed (removed : stays (key, d) = false) (base : Option Document) :
    mergedField type path key (some d) base = .ok none :=
  if_pos (stays_eq_false.mp removed)

theorem mergedField_onto (kept : stays (key, d)) (b : Document) :
    mergedField type path key (some d) (some b) =
      some <$> mergeValue type (some key) (fieldPath path key) d b :=
  if_neg (stays_eq_true.mp kept)

theorem mergedField_missing (kept : stays (key, d)) :
    mergedField type path key (some d) none = .ok (some (strip d)) :=
  if_neg (stays_eq_true.mp kept)

/-- A field of a patch changes the field of its key and no other. -/
theorem mergeField_find? {other : String} {base merged : Fields}
    (ran : mergeField type path base (other, d) = .ok merged) :
    (∀ key, key ≠ other → Ordered.find? key merged = Ordered.find? key base) ∧
    (other ≠ directiveKey →
      mergedField type path other (some d) (Ordered.find? other base) = .ok (Ordered.find? other merged)) := by
  rcases mergeField_cases ran with ⟨directive, rfl⟩ | ⟨-, removed, rfl⟩ | ⟨-, kept, b, value, stored, here, rfl⟩ |
    ⟨-, kept, absent, rfl⟩
  · exact ⟨fun _ _ => rfl, fun named => absurd directive named⟩
  · refine ⟨fun _ differ => Ordered.find?_erase_of_ne _ _ _ differ, fun _ => ?_⟩
    rw [mergedField_removed removed, Ordered.find?_erase_self]
  · refine ⟨fun _ differ => Ordered.find?_insert_of_ne _ _ _ _ differ, fun _ => ?_⟩
    rw [stored, mergedField_onto kept, here, Ordered.find?_insert_self]
    rfl
  · refine ⟨fun _ differ => Ordered.find?_insert_of_ne _ _ _ _ differ, fun _ => ?_⟩
    rw [absent, mergedField_missing kept, Ordered.find?_insert_self]

/-- Every field but the directive is merged by itself. -/
theorem mergeFields_field {patch base merged : Fields} (ascending : Ordered.Ascending patch)
    (named : key ≠ directiveKey) (ran : mergeFields type path patch base = .ok merged) :
    mergedField type path key (Ordered.find? key patch) (Ordered.find? key base) =
      .ok (Ordered.find? key merged) := by
  rw [mergeFields_eq_foldlM] at ran
  -- The keys of the patch ascend, so at most one of its fields says something about the key.
  induction patch generalizing base with
  | nil =>
    cases ran
    rfl
  | cons e rest ih =>
    obtain ⟨other, d⟩ := e
    have tail := (List.pairwise_cons.mp ascending).2
    obtain ⟨between, first, later⟩ := foldlM_cons_eq_ok.mp ran
    have onwards := ih tail later
    by_cases same : key = other
    · subst same
      rw [Ordered.find?_rest ascending] at onwards
      rw [Ordered.find?, if_pos Std.ReflCmp.compare_self, (mergeField_find? first).2 named]
      exact onwards
    · rw [Ordered.find?, if_neg fun equal => same (Std.LawfulEqCmp.eq_of_compare equal),
        ← (mergeField_find? first).1 key same]
      exact onwards

/-- A scalar of a patch is what the field holds afterwards. -/
theorem mergedField_scalar (scalar : d.isScalar) (base : Option Document) :
    mergedField type path key (some d) base = .ok (some d) := by
  have kept : stays (key, d) = true := by
    cases d <;> simp [Document.isScalar, stays, Document.kind, isDelete] at scalar ⊢
  have noMap : d.fields? = none := by
    cases d <;> simp [Document.isScalar, Document.fields?] at scalar ⊢
  have noList : d.items? = none := by
    cases d <;> simp [Document.isScalar, Document.items?] at scalar ⊢
  cases base with
  | none => rw [mergedField_missing kept, strip_simple noMap noList]
  | some b =>
    rw [mergedField_onto kept, mergeValue_simple noMap noList, strip_simple noMap noList]
    rfl

/-! ## Elements -/

/-- One element of a patch merged onto the elements of a list, by a key. -/
def mergeItem (type : GroupVersionKind) (field : Option String) (path key : String) (base : List Document)
    (d : Document) : Except BuildError (List Document) :=
  let value := d.field? key
  if isDelete d then .ok (base.filter (!hasKeyValue key value ·))
  else
    match base.findIdx? (hasKeyValue key value) with
    | some index => do
      let target := (base[index]?).getD .null
      let merged ← mergeValue type field (itemPath path key value) d target
      return base.set index merged
    | none => .ok (base ++ [strip d])

theorem mergeItems_eq_foldlM (patch base : List Document) :
    mergeItems type field path key patch base = patch.foldlM (mergeItem type field path key) base := by
  induction patch generalizing base with
  | nil =>
    rw [mergeItems, List.foldlM_nil]
    rfl
  | cons d rest ih =>
    rw [mergeItems, List.foldlM_cons, mergeItem, ← funext ih]
    dsimp only
    by_cases deletes : isDelete d = true
    · rw [if_pos deletes, if_pos deletes]
      rfl
    · rw [if_neg deletes, if_neg deletes]
      cases base.findIdx? (hasKeyValue key (d.field? key)) with
      | some index =>
        dsimp only
        cases mergeValue type field (itemPath path key (d.field? key)) d ((base[index]?).getD .null) <;> rfl
      | none => rfl

theorem mergeItem_deletes (deletes : isDelete d = true) (base : List Document) :
    mergeItem type field path key base d = .ok (base.filter (!hasKeyValue key (d.field? key) ·)) :=
  if_pos deletes

theorem mergeItem_absent (kept : isDelete d = false) {base : List Document}
    (unmatched : ∀ b ∈ base, hasKeyValue key (d.field? key) b = false) :
    mergeItem type field path key base d = .ok (base ++ [strip d]) := by
  rw [mergeItem, kept, List.findIdx?_eq_none_iff.mpr unmatched]
  rfl

theorem mergeItem_found (kept : isDelete d = false) {before after : List Document} {b : Document}
    (unmatched : ∀ a ∈ before, hasKeyValue key (d.field? key) a = false)
    (matched : hasKeyValue key (d.field? key) b) :
    mergeItem type field path key (before ++ b :: after) d =
      (before ++ · :: after) <$> mergeValue type field (itemPath path key (d.field? key)) d b := by
  have place : (before ++ b :: after).findIdx? (hasKeyValue key (d.field? key)) = some before.length := by
    refine List.findIdx?_eq_some_iff_getElem.mpr ⟨by simp, by simpa using matched, fun j less => ?_⟩
    rw [List.getElem_append_left less, unmatched _ (List.getElem_mem less)]
    decide
  rw [mergeItem, kept, place]
  simp [Functor.map, Except.map, bind, Except.bind, pure, Except.pure]

/-- An element that removes something takes out all that have its key. Another one is merged onto the
first that has its key, or added without directives where there is none. -/
theorem mergeItem_cases {base merged : List Document}
    (ran : mergeItem type field path key base d = .ok merged) :
    (isDelete d ∧ merged = base.filter (!hasKeyValue key (d.field? key) ·)) ∨
    (∃ before b after m, isDelete d = false ∧ base = before ++ b :: after ∧
      hasKeyValue key (d.field? key) b ∧
      mergeValue type field (itemPath path key (d.field? key)) d b = .ok m ∧ merged = before ++ m :: after) ∨
    (isDelete d = false ∧ (∀ b ∈ base, hasKeyValue key (d.field? key) b = false) ∧
      merged = base ++ [strip d]) := by
  cases deletes : isDelete d with
  | true =>
    rw [mergeItem_deletes deletes] at ran
    cases ran
    exact .inl ⟨rfl, rfl⟩
  | false =>
    right
    cases found : base.find? (hasKeyValue key (d.field? key)) with
    | none =>
      have unmatched : ∀ b ∈ base, hasKeyValue key (d.field? key) b = false := by
        simpa using List.find?_eq_none.mp found
      rw [mergeItem_absent deletes unmatched] at ran
      cases ran
      exact .inr ⟨rfl, unmatched, rfl⟩
    | some b =>
      obtain ⟨matched, before, after, rfl, unmatched⟩ := List.find?_eq_some_iff_append.mp found
      rw [mergeItem_found deletes (by simpa using unmatched) matched] at ran
      obtain ⟨m, here, rfl⟩ := map_eq_ok.mp ran
      exact .inl ⟨before, b, after, m, rfl, rfl, matched, here, rfl⟩

/-! ## What every merge keeps -/

/-- A property that merging keeps: values of a patch with some other property have it without
directives, and entries and elements can be changed under it. -/
structure KeptByMerging (Q P : Document → Prop) : Prop where
  item : ∀ items d, Q (.list items) → d ∈ items → Q d
  value : ∀ fields e, Q (.map fields) → e ∈ fields → Q e.2
  strip : ∀ d, Q d → P (strip d)
  list_iff : ∀ items, P (.list items) ↔ ∀ d ∈ items, P d
  field : ∀ fields key d, P (.map fields) → Ordered.find? key fields = some d → P d
  insert : ∀ fields key d, key ≠ directiveKey → P (.map fields) → P d → P (.map (Ordered.insert key d fields))
  erase : ∀ fields key, P (.map fields) → P (.map (Ordered.erase key fields))

namespace KeptByMerging

variable {Q P : Document → Prop}

theorem stripItems (kept : KeptByMerging Q P) {items : List Document} (each : ∀ d ∈ items, Q d) :
    ∀ d ∈ stripItems items, P d := by
  rw [stripItems_eq_map, List.forall_mem_map]
  intro d member
  exact kept.strip d (each d member)

/-- What merging keeps, the document that it gives has. -/
theorem mergeValue (kept : KeptByMerging Q P) {patch : Document} (asked : Q patch) {base merged : Document}
    (had : P base) (ran : Patch.mergeValue type field path patch base = .ok merged) : P merged := by
  -- The induction is on the patch, whose fields and elements are merged one after the other.
  induction patch using Document.inductionOn generalizing field path base merged with
  | simple patch noMap noList =>
    rw [mergeValue_simple noMap noList] at ran
    cases ran
    exact kept.strip patch asked
  | map fields ih =>
    rcases mergeValue_map_cases ran with ⟨rfl, -⟩ | ⟨b, m, rfl, -, merges, rfl⟩
    · exact kept.strip _ asked
    · rw [mergeFields_eq_foldlM] at merges
      refine foldlM_preserves (P := fun fields => P (.map fields)) (fun e member b b' had step => ?_) had merges
      have asked' := kept.value fields e asked member
      rcases mergeField_cases step with ⟨-, rfl⟩ | ⟨-, -, rfl⟩ | ⟨named, -, d, value, stored, here, rfl⟩ |
        ⟨named, -, -, rfl⟩
      · exact had
      · exact kept.erase b e.1 had
      · exact kept.insert b e.1 value named had (ih e member asked' (kept.field b e.1 d had stored) here)
      · exact kept.insert b e.1 _ named had (kept.strip e.2 asked')
  | list items ih =>
    have each : ∀ d ∈ items, Q d := fun d member => kept.item items d asked member
    rcases mergeValue_list_cases ran with rfl | rfl | ⟨b, key, m, rfl, merges, rfl⟩
    · exact kept.strip _ asked
    · exact (kept.list_iff _).mpr (kept.stripItems fun d member => each d (List.mem_filter.mp member).1)
    · rw [mergeItems_eq_foldlM] at merges
      rw [kept.list_iff] at had ⊢
      refine foldlM_preserves (P := fun items => ∀ d ∈ items, P d) (fun d member b b' had step => ?_) had merges
      rcases mergeItem_cases step with ⟨-, rfl⟩ | ⟨before, target, after, value, -, rfl, -, here, rfl⟩ |
        ⟨-, -, rfl⟩
      · intro other inside
        exact had other (List.mem_filter.mp inside).1
      · intro other inside
        rcases List.mem_append.mp inside with first | later
        · exact had other (List.mem_append_left _ first)
        · rcases List.mem_cons.mp later with rfl | last
          · exact ih d member (each d member) (had target (by simp)) here
          · exact had other (by simp [last])
      · intro other inside
        rcases List.mem_append.mp inside with old | added
        · exact had other old
        · rw [List.mem_singleton.mp added]
          exact kept.strip d (each d member)

end KeptByMerging

end Patch

end KubeOverlay
