import KubeOverlay.Proofs.ForestInvariant
/-!
# Changes of a forest

Each kind of change of a sound forest is a splice (`Forest.setField_splice` and the others up to
`Forest.overwrite_splice`), and replacing a value is one of them: a node that a container holds is
replaced in its slot (`Forest.set_held`), any other is overwritten (`Forest.set_free`).
-/
namespace KubeOverlay

namespace Forest

variable {f g : Forest}

/-! ## What changes splice in -/

variable {n : Nat} {d : Document} {key : String} {entries : List (String × NodeId)} {held : List NodeId}

theorem Grown.splice_detach {f₁ : Forest} {c : Content} {tops : List NodeId}
    (grown : Grown f f₁ (some n) tops) (removed rest : List NodeId) (shape : f.Sound) (inside : n < f.size)
    (old : (f.children n).Perm (removed ++ rest)) (new : c.children.Perm (tops ++ rest))
    (ascending : Ordered.Ascending c.fields) :
    Splice f (removed.foldl detach (f₁.setContent n c)) n removed [] := by
  have within : n < f₁.size := Nat.lt_of_lt_of_le inside grown.size_le
  have relinked : Relinked f f₁ (removed.foldl detach (f₁.setContent n c)) n c removed rest tops [] := by
    refine ⟨by rwa [List.append_nil], shape, inside, by simp, ?_, ?_, old, new, ascending⟩
    · intro m
      rw [content_detachAll, content_setContent m c within]
    · intro m
      rw [parent?_detachAll, parent?_setContent]
  exact relinked.splice

/-- Where a node keeps its content, the tops of a fresh row below it are strays. -/
theorem Grown.splice_strays {strays : List NodeId} (grown : Grown f g (some n) strays) (shape : f.Sound)
    (inside : n < f.size) : Splice f g n [] strays := by
  have relinked : Relinked f g g n (f.content n) [] (f.children n) [] strays := by
    refine ⟨grown, shape, inside, rfl, ?_, by simp, .refl _, .refl _, shape.ascending n⟩
    intro m
    split
    · next here => rw [here, grown.content_old n inside]
    · rfl
  exact relinked.splice

theorem Splice.refl (shape : f.Sound) (inside : n < f.size) : Splice f f n [] [] :=
  (Grown.refl f (some n)).splice_strays shape inside

@[simp] theorem children_map (entries : List (String × NodeId)) :
    (Content.map entries).children = entries.map (·.2) := by
  simp [Content.children, Content.fields, Content.items]

@[simp] theorem children_slice (held : List NodeId) : (Content.slice held).children = held := by
  simp [Content.children, Content.fields, Content.items]

theorem map_of_kind (isMap : f.kind n = .map) : f.content n = .map (f.fields n) := by
  unfold kind at isMap
  unfold fields
  cases isC : f.content n with
  | map entries => rfl
  | _ => simp [isC, Content.kind] at isMap

theorem slice_of_kind (isSlice : f.kind n = .slice) : f.content n = .slice (f.items n) := by
  unfold kind at isSlice
  unfold items
  cases isC : f.content n with
  | slice held => rfl
  | _ => simp [isC, Content.kind] at isSlice

theorem inside_of_map (isMap : f.content n = .map entries) : n < f.size :=
  inside_of_content isMap (by simp)

theorem inside_of_slice (isSlice : f.content n = .slice held) : n < f.size :=
  inside_of_content isSlice (by simp)

theorem Sound.ascending_map (shape : f.Sound) (isMap : f.content n = .map entries) :
    Ordered.Ascending entries := by
  have sorted := shape.ascending n
  rwa [fields, isMap] at sorted

/-- What the fields of a map hold besides one of them. -/
theorem Sound.map_children_perm (shape : f.Sound) (isMap : f.content n = .map entries) (key : String) :
    (f.children n).Perm ((Ordered.find? key entries).toList ++ (Ordered.erase key entries).map (·.2)) := by
  rw [children, isMap, children_map]
  refine ((Ordered.perm_erase key (shape.ascending_map isMap)).map (·.2)).trans (.of_eq ?_)
  simp [Function.comp_def]

/-! ### Fields -/

theorem setField_eq (isMap : f.content n = .map entries) :
    f.setField n key d = (f.size, (Ordered.find? key entries).toList.foldl detach
      ((f.insert (some n) d).2.setContent n (.map (Ordered.insert key f.size entries)))) := by
  have same : (f.insert (some n) d).2.content n = .map entries := by
    rw [content_insert_old _ _ (inside_of_map isMap), isMap]
  simp only [setField, same]
  cases Ordered.find? key entries <;> rfl

theorem content_setField (isMap : f.content n = .map entries) (m : Nat) :
    (f.setField n key d).2.content m =
      if m = n then .map (Ordered.insert key f.size entries) else (f.insert (some n) d).2.content m := by
  have inside := inside_insert (some n) d (inside_of_map isMap)
  rw [setField_eq isMap, content_detachAll, content_setContent m _ inside]

theorem setField_stray (inside : n < f.size) (noMap : f.kind n ≠ .map) :
    f.setField n key d = f.insert (some n) d := by
  have same : (f.insert (some n) d).2.content n = f.content n := content_insert_old _ _ inside
  simp only [setField, same]
  split
  · next isMap => simp [kind, isMap, Content.kind] at noMap
  · rfl

theorem setField_fst : (f.setField n key d).1 = f.size := by
  simp only [setField]
  split <;> rfl

theorem size_setField : (f.setField n key d).2.size = f.size + d.nodeCount := by
  rw [← size_insert (some n) d]
  simp only [setField]
  split
  · next entries _ => cases Ordered.find? key entries <;> simp
  · rfl

theorem removeField_eq (isMap : f.content n = .map entries) :
    f.removeField n key = match Ordered.find? key entries with
      | some child => (some child, (f.setContent n (.map (Ordered.erase key entries))).detach child)
      | none => (none, f) := by
  cases found : Ordered.find? key entries <;> simp [removeField, isMap, found]

theorem removeField_fst : (f.removeField n key).1 = f.field? key n := by
  unfold removeField field? fields
  cases isC : f.content n with
  | map entries =>
    simp only [Content.fields]
    cases Ordered.find? key entries <;> rfl
  | _ => rfl

theorem content_removeField (isMap : f.content n = .map entries) (m : Nat) :
    (f.removeField n key).2.content m = if m = n then .map (Ordered.erase key entries) else f.content m := by
  rw [removeField_eq isMap]
  cases found : Ordered.find? key entries with
  | none =>
    have all : Ordered.erase key entries = entries := Ordered.erase_of_find? found
    by_cases here : m = n
    · rw [if_pos here, all, here, isMap]
    · rw [if_neg here]
  | some child => rw [content_detach, content_setContent m _ (inside_of_map isMap)]

theorem removeField_stray (noMap : f.kind n ≠ .map) : f.removeField n key = (none, f) := by
  unfold removeField
  split
  · next isMap => simp [kind, isMap, Content.kind] at noMap
  · rfl

theorem setField_splice (shape : f.Sound) (sorted : d.Sorted) (isMap : f.content n = .map entries) :
    Splice f (f.setField n key d).2 n (Ordered.find? key entries).toList [] := by
  rw [setField_eq isMap]
  refine (insert_grown f (some n) sorted).splice_detach _ _ shape (inside_of_map isMap)
    (shape.map_children_perm isMap key) ?_ ?_
  · rw [children_map]
    exact (Ordered.insert_perm_erase f.size (shape.ascending_map isMap)).map (·.2)
  · exact Ordered.ascending_insert key f.size entries (shape.ascending_map isMap)

theorem removeField_splice (shape : f.Sound) (isMap : f.content n = .map entries) :
    Splice f (f.removeField n key).2 n (Ordered.find? key entries).toList [] := by
  have perm := shape.map_children_perm isMap key
  rw [removeField_eq isMap]
  cases found : Ordered.find? key entries with
  | none => exact .refl shape (inside_of_map isMap)
  | some child =>
    rw [found] at perm
    refine (Grown.refl f (some n)).splice_detach [child] _ shape (inside_of_map isMap) perm ?_ ?_
    · rw [children_map, List.nil_append]
    · exact Ordered.ascending_erase key entries (shape.ascending_map isMap)

/-! ### Elements -/

theorem replaceItem_eq {index : Nat} (isSlice : f.content n = .slice held) (within : index < held.length) :
    f.replaceItem n index d = (f.size, [held[index]].foldl detach
      ((f.insert (some n) d).2.setContent n (.slice (held.set index f.size)))) := by
  have same : (f.insert (some n) d).2.content n = .slice held := by
    rw [content_insert_old _ _ (inside_of_slice isSlice), isSlice]
  simp only [replaceItem, same, List.getElem?_eq_getElem within]
  rfl

theorem content_replaceItem {index : Nat} (isSlice : f.content n = .slice held) (within : index < held.length)
    (m : Nat) : (f.replaceItem n index d).2.content m =
      if m = n then .slice (held.set index f.size) else (f.insert (some n) d).2.content m := by
  have inside := inside_insert (some n) d (inside_of_slice isSlice)
  rw [replaceItem_eq isSlice within, content_detachAll, content_setContent m _ inside]

theorem replaceItem_fst {index : Nat} : (f.replaceItem n index d).1 = f.size := by
  simp only [replaceItem]
  split <;> rfl

theorem size_replaceItem {index : Nat} : (f.replaceItem n index d).2.size = f.size + d.nodeCount := by
  rw [← size_insert (some n) d]
  simp only [replaceItem]
  split
  · next held _ => cases held[index]? <;> simp
  · rfl

theorem append_eq (isSlice : f.content n = .slice held) :
    f.append n d = (f.size, (f.insert (some n) d).2.setContent n (.slice (held ++ [f.size]))) := by
  have same : (f.insert (some n) d).2.content n = .slice held := by
    rw [content_insert_old _ _ (inside_of_slice isSlice), isSlice]
  simp only [append, same]
  rfl

theorem content_append (isSlice : f.content n = .slice held) (m : Nat) : (f.append n d).2.content m =
    if m = n then .slice (held ++ [f.size]) else (f.insert (some n) d).2.content m := by
  have inside := inside_insert (some n) d (inside_of_slice isSlice)
  rw [append_eq isSlice, content_setContent m _ inside]

theorem append_stray (inside : n < f.size) (noSlice : f.kind n ≠ .slice) :
    f.append n d = f.insert (some n) d := by
  have same : (f.insert (some n) d).2.content n = f.content n := content_insert_old _ _ inside
  simp only [append, same]
  split
  · next isSlice => simp [kind, isSlice, Content.kind] at noSlice
  · rfl

theorem append_fst : (f.append n d).1 = f.size := by
  simp only [append]
  split <;> rfl

theorem size_append : (f.append n d).2.size = f.size + d.nodeCount := by
  rw [← size_insert (some n) d]
  simp only [append]
  split
  · simp
  · rfl

theorem replaceItem_splice {index : Nat} (shape : f.Sound) (sorted : d.Sorted)
    (isSlice : f.content n = .slice held) (within : index < held.length) :
    Splice f (f.replaceItem n index d).2 n [held[index]] [] := by
  rw [replaceItem_eq isSlice within]
  refine (insert_grown f (some n) sorted).splice_detach _ (held.eraseIdx index) shape
    (inside_of_slice isSlice) ?_ ?_ Ordered.ascending_nil
  · rw [children, isSlice, children_slice]
    exact (List.getElem_cons_eraseIdx_perm within).symm
  · rw [children_slice]
    exact List.set_perm_cons_eraseIdx within f.size

theorem append_splice (shape : f.Sound) (sorted : d.Sorted) (isSlice : f.content n = .slice held) :
    Splice f (f.append n d).2 n [] [] := by
  rw [append_eq isSlice]
  refine (insert_grown f (some n) sorted).splice_detach [] held shape
    (inside_of_slice isSlice) ?_ ?_ Ordered.ascending_nil
  · rw [children, isSlice, children_slice, List.nil_append]
  · rw [children_slice]
    exact List.perm_append_comm

/-- What is laid out below a node that does not take it up is a stray. -/
theorem insert_splice (shape : f.Sound) (inside : n < f.size) (sorted : d.Sorted) :
    Splice f (f.insert (some n) d).2 n [] [f.size] :=
  (insert_grown f (some n) sorted).splice_strays shape inside

/-! ## Overwriting -/

/-- Where a document has been laid out apart, its top has been emptied, and a node has become the parent
of what stood below the top. -/
def adopted (f : Forest) (n : NodeId) (d : Document) : Forest :=
  ((f.plant d).2.children f.size).foldl (attach n) ((f.plant d).2.setContent f.size .null)

section Adopted

variable (sorted : d.Sorted)
include sorted

theorem plant_grown : Grown f (f.plant d).2 none [f.size] := insert_grown f none sorted

theorem planted_child {m : Nat} (member : m ∈ (f.plant d).2.children f.size) :
    f.size < m ∧ m < (f.plant d).2.size ∧ (f.plant d).2.parent? m = some f.size :=
  (plant_grown sorted).child f.size m (Nat.le_refl _) member

theorem content_adopted (m : Nat) :
    (f.adopted n d).content m = if m = f.size then .null else (f.plant d).2.content m := by
  have top := (plant_grown (f := f) sorted).top f.size (List.mem_singleton_self _)
  rw [adopted, content_attachAll, content_setContent m .null top.2.1]

theorem parent?_adopted (m : Nat) : (f.adopted n d).parent? m =
    if m ∈ (f.plant d).2.children f.size then some n else (f.plant d).2.parent? m := by
  rw [adopted, parent?_attachAll, parent?_setContent]
  intro m member
  rw [size_setContent]
  exact (planted_child sorted member).2.1

omit sorted in
@[simp] theorem size_adopted : (f.adopted n d).size = (f.plant d).2.size := by
  rw [adopted, size_attachAll, size_setContent]

theorem children_adopted (m : Nat) :
    (f.adopted n d).children m = if m = f.size then [] else (f.plant d).2.children m := by
  rw [children, content_adopted sorted]
  split <;> rfl

/-- What has been laid out apart is a row below the node that adopts it. -/
theorem adopted_grown (f : Forest) (n : Nat) :
    Grown f (f.adopted n d) (some n) ((f.plant d).2.children f.size) := by
  have grown := plant_grown (f := f) sorted
  refine ⟨by simpa using grown.size_le, ?_, ?_, grown.once f.size (Nat.le_refl _), ?_, ?_, ?_, ?_, ?_⟩
  · intro m old
    rw [content_adopted sorted, if_neg (by omega), grown.content_old m old]
  · intro m old
    have noTop : m ∉ (f.plant d).2.children f.size := fun member => by
      have := (planted_child sorted member).1
      omega
    rw [parent?_adopted sorted, if_neg noTop, grown.parent_old m old]
  · intro m member
    have ⟨behind, before, _⟩ := planted_child sorted member
    refine ⟨by omega, by simpa using before, ?_⟩
    rw [parent?_adopted sorted, if_pos member]
  · intro m c new member
    rw [children_adopted sorted] at member
    split at member
    · contradiction
    · next other =>
      have ⟨behind, before, link⟩ := grown.child m c new member
      -- The children of the top have the top as their parent, and `m` is another node.
      have noTop : c ∉ (f.plant d).2.children f.size := fun top => by
        have above := (planted_child sorted top).2.2
        rw [link] at above
        exact other (Option.some.inj above)
      rw [parent?_adopted sorted, if_neg noTop]
      exact ⟨behind, by simpa using before, link⟩
  · intro m new
    rw [children_adopted sorted]
    split
    · exact .nil
    · exact grown.once m new
  · intro m new
    rw [fields, content_adopted sorted]
    split
    · exact Ordered.ascending_nil
    · exact grown.ascending m new
  · intro m p new link
    rw [parent?_adopted sorted] at link
    split at link
    · next top => exact .inl ⟨top, link⟩
    · next noTop =>
      rcases grown.held m p new link with ⟨_, none⟩ | ⟨behind, less, held⟩
      · contradiction
      · have other : p ≠ f.size := by
          rintro rfl
          exact noTop held
        rw [children_adopted sorted, if_neg other]
        exact .inr ⟨behind, less, held⟩

theorem overwrite_eq (inside : n < f.size) :
    f.overwrite n d = (((f.plant d).2.children f.size).foldl (attach n)
      ((f.children n).foldl detach ((f.plant d).2.setContent f.size .null))).setContent n
        ((f.plant d).2.content f.size) := by
  have top := (plant_grown (f := f) sorted).top f.size (List.mem_singleton_self _)
  have here : ((f.plant d).2.setContent f.size .null).children n = f.children n := by
    rw [children, content_setContent _ _ top.2.1, if_neg (by omega), plant, content_insert_old _ _ inside]
    rfl
  rw [← here]
  rfl

theorem content_overwrite (inside : n < f.size) (m : Nat) :
    (f.overwrite n d).content m =
      if m = n then (f.plant d).2.content f.size else (f.adopted n d).content m := by
  have top := (plant_grown (f := f) sorted).top f.size (List.mem_singleton_self _)
  rw [overwrite_eq sorted inside, content_setContent _ _ (by simp; omega)]
  simp [adopted]

theorem overwrite_splice (shape : f.Sound) (inside : n < f.size) :
    Splice f (f.overwrite n d) n (f.children n) [] := by
  have grown := plant_grown (f := f) sorted
  have below (m : Nat) (member : m ∈ (f.plant d).2.children f.size) : m < (f.plant d).2.size :=
    (planted_child sorted member).2.1
  have relinked : Relinked f (f.adopted n d) (f.overwrite n d) n ((f.plant d).2.content f.size) (f.children n) []
      ((f.plant d).2.children f.size) [] := by
    refine ⟨by simpa using adopted_grown sorted f n, shape, inside, ?_, content_overwrite sorted inside, ?_,
      by simp, by simp [children], grown.ascending f.size (Nat.le_refl _)⟩
    · rw [overwrite_eq sorted inside]
      simp
    · intro m
      rw [overwrite_eq sorted inside, parent?_setContent, parent?_attachAll _ _ _ (by simpa using below),
        parent?_detachAll, parent?_adopted sorted]
      by_cases fresh : m ∈ (f.plant d).2.children f.size
      · have notOld : m ∉ f.children n := fun old => by
          have := (planted_child sorted fresh).1
          have := (shape.above n m old).2
          omega
        rw [if_pos fresh, if_pos fresh, if_neg notOld]
      · rw [if_neg fresh, if_neg fresh, parent?_setContent]
  exact relinked.splice

end Adopted

/-! ## Replacing a value -/

/-- A container holds a node in one of its slots. -/
inductive Holds (f : Forest) (p : NodeId) : Slot → NodeId → Prop where
  | field {key : String} {c : NodeId} (stored : (key, c) ∈ f.fields p) : Holds f p (.field key) c
  | item {index : Nat} {c : NodeId} (there : (f.items p)[index]? = some c) : Holds f p (.item index) c

theorem map_of_field {p c : Nat} (stored : (key, c) ∈ f.fields p) : f.content p = .map (f.fields p) := by
  unfold fields at stored ⊢
  cases isC : f.content p with
  | map entries => rfl
  | _ => simp [isC, Content.fields] at stored

theorem slice_of_item {p c index : Nat} (there : (f.items p)[index]? = some c) :
    f.content p = .slice (f.items p) := by
  unfold items at there ⊢
  cases isC : f.content p with
  | slice held => rfl
  | _ => simp [isC, Content.items] at there

theorem mem_children_iff {p c : Nat} : c ∈ f.children p ↔ ∃ slot, f.Holds p slot c := by
  constructor
  · intro child
    rw [children, Content.children, List.mem_append] at child
    rcases child with inField | inItem
    · obtain ⟨e, stored, rfl⟩ := List.mem_map.mp inField
      exact ⟨.field e.1, .field stored⟩
    · obtain ⟨index, there⟩ := List.mem_iff_getElem?.mp inItem
      exact ⟨.item index, .item there⟩
  · rintro ⟨_, stored | there⟩
    · rw [children, map_of_field stored, children_map]
      exact List.mem_map_of_mem stored
    · rw [children, slice_of_item there, children_slice]
      exact List.mem_of_getElem? there

theorem Holds.child {p c : Nat} {slot : Slot} (holds : f.Holds p slot c) : c ∈ f.children p :=
  mem_children_iff.mpr ⟨slot, holds⟩

theorem Sound.mem_fields_iff (shape : f.Sound) {p c : Nat} : (key, c) ∈ f.fields p ↔ f.field? key p = some c :=
  Ordered.mem_iff_find? (shape.ascending p) key c

/-- A container holds a node in one slot only. -/
theorem Sound.slot_unique (shape : f.Sound) {p c : Nat} {slot slot' : Slot} (holds : f.Holds p slot c)
    (holds' : f.Holds p slot' c) : slot = slot' := by
  have once := shape.once p
  rw [children] at once
  cases holds with
  | field stored =>
    rw [map_of_field stored, children_map] at once
    cases holds' with
    | field stored' =>
      have same := List.inj_on_of_nodup_map once stored stored' rfl
      rw [(Prod.mk.inj same).1]
    | item there =>
      have isMap := map_of_field stored
      rw [slice_of_item there] at isMap
      contradiction
  | item there =>
    rw [slice_of_item there, children_slice] at once
    cases holds' with
    | field stored =>
      have isMap := map_of_field stored
      rw [slice_of_item there] at isMap
      contradiction
    | item there' =>
      obtain ⟨within, here⟩ := List.getElem?_eq_some_iff.mp there
      obtain ⟨within', here'⟩ := List.getElem?_eq_some_iff.mp there'
      rw [(List.Nodup.getElem_inj_iff once).mp (here.trans here'.symm)]

/-- What is searched for in a container is found in the slot that holds it. -/
theorem holds_of_slot? {p id : Nat} {slot : Slot} (found : slot? id (f.content p) = some slot) :
    f.Holds p slot id := by
  cases isC : f.content p with
  | map entries =>
    rw [isC, slot?] at found
    obtain ⟨e, first, rfl⟩ := Option.map_eq_some_iff.mp found
    have same : e.2 = id := by simpa using List.find?_some first
    have stored : (e.1, id) ∈ f.fields p := by
      rw [fields, isC, Content.fields, ← same]
      exact List.mem_of_find?_eq_some first
    exact .field stored
  | slice held =>
    rw [isC, slot?] at found
    obtain ⟨index, first, rfl⟩ := Option.map_eq_some_iff.mp found
    obtain ⟨within, same, -⟩ := List.findIdx?_eq_some_iff_getElem.mp first
    have there : (f.items p)[index]? = some id := by
      rw [items, isC, Content.items, List.getElem?_eq_getElem within]
      exact congrArg some (by simpa using same)
    exact .item there
  | _ => simp [isC, slot?] at found

theorem slot?_isSome {p id : Nat} (child : id ∈ f.children p) : (slot? id (f.content p)).isSome := by
  rw [children] at child
  cases isC : f.content p with
  | map entries =>
    rw [isC, children_map] at child
    obtain ⟨e, member, same⟩ := List.mem_map.mp child
    have found : (entries.find? (·.2 == id)).isSome := by
      rw [List.find?_isSome]
      exact ⟨e, member, by simpa using same⟩
    simpa [slot?] using found
  | slice held =>
    rw [isC, children_slice] at child
    simpa [slot?] using child
  | _ => simp [isC, Content.children, Content.fields, Content.items] at child

/-- A node that a container holds is replaced in its slot. -/
theorem set_held {p id : Nat} {slot : Slot} (shape : f.Sound) (holds : f.Holds p slot id) :
    f.set id d = match slot with
      | .field key => f.setField p key d
      | .item index => f.replaceItem p index d := by
  have link := shape.linked p id holds.child
  obtain ⟨slot', found⟩ := Option.isSome_iff_exists.mp (slot?_isSome holds.child)
  have same := shape.slot_unique holds (holds_of_slot? found)
  subst same
  simp only [set, link, found]
  cases slot <;> rfl

/-- A node that nothing holds is overwritten. -/
theorem set_free {id : Nat} (free : ∀ p : Nat, id ∉ f.children p) : f.set id d = (id, f.overwrite id d) := by
  rw [set]
  cases link : f.parent? id with
  | none => rfl
  | some p =>
    cases found : slot? id (f.content p) with
    | none => simp only [found]
    | some slot => exact absurd (holds_of_slot? found).child (free p)

end Forest

end KubeOverlay