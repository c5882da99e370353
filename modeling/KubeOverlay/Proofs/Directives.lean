import KubeOverlay.Proofs.Merging
/-!
# Directives stay in the patch

Whether a map of a document, at any depth, has a key is a recursion on the document
(`Document.hasKey`). No value of a patch has the key of directives once it is stored
(`Patch.hasKey_strip`), and merging stores nothing else of a patch, so what is merged onto a document
without the key has it nowhere (`Patch.merge_lacks_directives`).
-/
namespace KubeOverlay

namespace Document

mutual
/-- Whether a map of the document, at any depth, has a key. -/
def hasKey (key : String) : Document → Bool
  | .list items => itemsHaveKey key items
  | .map fields => fieldsHaveKey key fields
  | _ => false

/-- Whether an element has a map with the key. -/
def itemsHaveKey (key : String) : List Document → Bool
  | [] => false
  | d :: rest => hasKey key d || itemsHaveKey key rest

/-- Whether a field is under the key, or has a map with it. -/
def fieldsHaveKey (key : String) : List (String × Document) → Bool
  | [] => false
  | (other, d) :: rest => other == key || hasKey key d || fieldsHaveKey key rest
end

variable {key : String} {items : List Document} {fields : Fields} {d : Document}

theorem hasKey_simple (noMap : d.fields? = none) (noList : d.items? = none) : d.hasKey key = false := by
  cases d with
  | map fields => contradiction
  | list items => contradiction
  | _ => rw [hasKey] <;> simp

@[simp] theorem hasKey_list : (list items).hasKey key = false ↔ ∀ d ∈ items, d.hasKey key = false := by
  rw [hasKey]
  induction items with
  | nil => simp [itemsHaveKey]
  | cons d rest ih => simp [itemsHaveKey, ih]

@[simp] theorem hasKey_map :
    (map fields).hasKey key = false ↔ ∀ e ∈ fields, e.1 ≠ key ∧ e.2.hasKey key = false := by
  rw [hasKey]
  induction fields with
  | nil => simp [fieldsHaveKey]
  | cons e rest ih => simp [fieldsHaveKey, ih, and_assoc]

/-- A key that no map has leads to nothing. -/
theorem at?_of_hasKey {q : Position} (lacks : d.hasKey key = false) (through : key ∈ q.keys) :
    d.at? q = none := by
  induction q generalizing d with
  | nil => simp at through
  | cons step q ih =>
    cases step with
    | key name =>
      cases d with
      | map fields =>
        rw [at?_key_map]
        cases stored : Ordered.find? name fields with
        | none => rfl
        | some below =>
          obtain ⟨differs, inside⟩ := hasKey_map.mp lacks _ (Ordered.mem_of_find? stored)
          have onwards : key ∈ Position.keys q := by
            simpa [Ne.symm differs] using through
          exact ih inside onwards
      | _ => rfl
    | index i =>
      cases d with
      | list items =>
        rw [at?_index_list]
        cases stored : items[i]? with
        | none => rfl
        | some below => exact ih (hasKey_list.mp lacks below (List.mem_of_getElem? stored)) through
      | _ => rfl

end Document

namespace Patch

open Document (hasKey_simple hasKey_list hasKey_map at?_of_hasKey)

theorem hasKey_strip (d : Document) : (strip d).hasKey directiveKey = false := by
  induction d using Document.inductionOn with
  | simple d noMap noList =>
    rw [strip_simple noMap noList]
    exact hasKey_simple noMap noList
  | list items ih =>
    rw [strip, stripItems_eq_map, hasKey_list, List.forall_mem_map]
    exact ih
  | map fields ih =>
    rw [strip, stripFields_eq_map, hasKey_map, List.forall_mem_map]
    intro e member
    obtain ⟨inside, named⟩ := List.mem_filter.mp member
    exact ⟨by simpa using named, ih e inside⟩

theorem directives_keptByMerging :
    KeptByMerging (fun _ => True) (fun d => d.hasKey directiveKey = false) where
  item _ _ _ _ := trivial
  value _ _ _ _ := trivial
  strip d _ := hasKey_strip d
  list_iff _ := hasKey_list
  field fields key d lacks found := (hasKey_map.mp lacks _ (Ordered.mem_of_find? found)).2
  insert fields key d named lacks new := by
    rw [hasKey_map] at lacks ⊢
    intro e member
    rcases Ordered.mem_insert member with rfl | old
    · exact ⟨named, new⟩
    · exact lacks e old
  erase fields key lacks := by
    rw [hasKey_map] at lacks ⊢
    exact fun e member => lacks e (List.mem_filter.mp member).1

/-- Merged onto a document without directives, every patch gives one without directives, at any depth
and at every position. -/
theorem merge_lacks_directives {type : GroupVersionKind} {base patch merged : Document}
    (lacks : base.hasKey directiveKey = false) (ran : merge type base patch = .ok merged) :
    merged.hasKey directiveKey = false ∧
      ∀ q : Position, directiveKey ∈ q.keys → merged.at? q = none := by
  have nowhere : merged.hasKey directiveKey = false :=
    directives_keptByMerging.mergeValue trivial lacks ran
  exact ⟨nowhere, fun q through => at?_of_hasKey nowhere through⟩

/-- A patch with directives in maps of lists and of maps, one of which is no text. -/
def nestedDirectives : Document :=
  .map [("$patch", .number (.int 1)),
    ("added", .list [.map [("$patch", .string "merge"), ("inner", .map [("$patch", .string "delete")])]]),
    ("replaced", .map [("$patch", .string "replace"), ("left", .null)])]

/-- Nothing of the directives is in the result, below elements of lists included. -/
theorem nestedDirectives_left : ∃ merged,
    merge ⟨"", "v1", "ConfigMap"⟩ (.map [("replaced", .map [("old", .null)])]) nestedDirectives =
      .ok merged ∧
    merged.hasKey directiveKey = false ∧
    merged.at? [.key "added", .index 0, .key "inner", .key "$patch"] = none := by
  obtain ⟨merged, ran⟩ : ∃ merged, merge ⟨"", "v1", "ConfigMap"⟩
      (.map [("replaced", .map [("old", .null)])]) nestedDirectives = .ok merged := ⟨_, rfl⟩
  obtain ⟨nowhere, absent⟩ := merge_lacks_directives (by decide) ran
  exact ⟨merged, ran, nowhere, absent _ (by decide)⟩

end Patch

end KubeOverlay
