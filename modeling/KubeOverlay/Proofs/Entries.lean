import KubeOverlay.Document
/-!
# Look-up among entries

What is stored among entries in key order is what a look-up finds (`Ordered.mem_iff_find?`), and such
entries are given by what they hold in any order (`Ordered.eq_of_perm`). A document is sorted if the
fields of each of its maps are such entries.
-/
namespace KubeOverlay

namespace Ordered

section Lookup

variable {κ α : Type} [Ord κ] [Std.LawfulEqOrd κ] {key : κ} {value : α} {entries : List (κ × α)}

theorem mem_of_find? (found : find? key entries = some value) : (key, value) ∈ entries := by
  induction entries with
  | nil => contradiction
  | cons e rest ih =>
    rw [find?] at found
    split at found
    · next same =>
      cases Std.LawfulEqCmp.eq_of_compare same
      cases found
      exact List.mem_cons_self
    · exact List.mem_cons_of_mem e (ih found)

theorem find?_eq_none_iff : find? key entries = none ↔ ∀ e ∈ entries, e.1 ≠ key := by
  induction entries with
  | nil => simp [find?]
  | cons e rest ih =>
    rw [find?, List.forall_mem_cons, ← ih]
    by_cases same : compare key e.1 = .eq
    · have equal := Std.LawfulEqCmp.eq_of_compare same
      simp [equal]
    · have differ : e.1 ≠ key := fun equal => same (equal ▸ Std.ReflCmp.compare_self)
      simp [same, differ]

/-- Keys that ascend do not come up again. -/
theorem find?_rest {e : κ × α} (ascending : Ascending (e :: entries)) : find? e.1 entries = none := by
  obtain ⟨above, -⟩ := List.pairwise_cons.mp ascending
  refine find?_eq_none_iff.mpr fun other member same => ?_
  have self : compare e.1 other.1 = .eq := same ▸ Std.ReflCmp.compare_self
  rw [above other member] at self
  contradiction

/-- What is found under a key is stored under it. -/
theorem mem_iff_find? {entries : List (κ × α)} (ascending : Ascending entries) (key : κ) (value : α) :
    (key, value) ∈ entries ↔ find? key entries = some value := by
  refine ⟨fun member => ?_, mem_of_find?⟩
  induction entries with
  | nil => contradiction
  | cons e rest ih =>
    rw [find?]
    rcases List.mem_cons.mp member with rfl | later
    · rw [if_pos Std.ReflCmp.compare_self]
    · have differ := find?_eq_none_iff.mp (find?_rest ascending) _ later
      rw [if_neg fun same => differ (Std.LawfulEqCmp.eq_of_compare same)]
      exact ih (List.pairwise_cons.mp ascending).2 later

theorem erase_of_find? (free : find? key entries = none) : erase key entries = entries := by
  refine List.filter_eq_self.mpr fun e member => ?_
  have differ := find?_eq_none_iff.mp free e member
  rw [bne_iff_ne, ne_eq]
  exact fun same => differ (Std.LawfulEqCmp.eq_of_compare same).symm

/-- Of values stored under a key the last one stays. -/
theorem insert_insert (a b : α) (entries : List (κ × α)) :
    insert key a (insert key b entries) = insert key a entries := by
  induction entries with
  | nil => simp [insert, Std.ReflCmp.compare_self]
  | cons e rest ih =>
    rw [insert, insert]
    split
    · simp [insert, Std.ReflCmp.compare_self]
    · simp [insert, Std.ReflCmp.compare_self]
    · next above => rw [insert, above, ih]

omit [Std.LawfulEqOrd κ] in
/-- Under a key that is free, a value is one more entry. -/
theorem insert_perm (free : find? key entries = none) :
    (insert key value entries).Perm ((key, value) :: entries) := by
  induction entries with
  | nil => exact .refl _
  | cons e rest ih =>
    rw [find?] at free
    rw [insert]
    split
    · exact .refl _
    · next same => simp [same] at free
    · next greater =>
      rw [greater, if_neg (by decide)] at free
      exact ((ih free).cons e).trans (.swap ..)

theorem nodup_keys (ascending : Ascending entries) : (entries.map (·.1)).Nodup := by
  rw [List.Nodup, List.pairwise_map]
  refine ascending.imp fun {a b} below => ?_
  rintro same
  have self : compare a.1 b.1 = .eq := same ▸ Std.ReflCmp.compare_self
  rw [self] at below
  contradiction

omit [Std.LawfulEqOrd κ] in
theorem eq_of_perm [Std.TransOrd κ] {a b : List (κ × α)} (left : Ascending a) (right : Ascending b)
    (perm : a.Perm b) : a = b := by
  refine perm.eq_of_pairwise (fun x y _ _ below above => ?_) left right
  rw [Std.OrientedCmp.gt_of_lt below] at above
  contradiction

/-- Entries with different keys are brought into key order, and none is lost. -/
theorem ofList_perm (nodup : (entries.map (·.1)).Nodup) : (ofList entries).Perm entries := by
  have onto (more sorted : List (κ × α)) (nodup : ((sorted ++ more).map (·.1)).Nodup) :
      (more.foldl (fun sorted e => insert e.1 e.2 sorted) sorted).Perm (sorted ++ more) := by
    induction more generalizing sorted with
    | nil => rw [List.append_nil]; rfl
    | cons e rest ih =>
      have moved : (sorted ++ e :: rest).Perm (e :: sorted ++ rest) := List.perm_middle
      have first := (moved.map (·.1)).nodup_iff.mp nodup
      have free : find? e.1 sorted = none := by
        rw [List.cons_append, List.map_cons, List.nodup_cons] at first
        refine find?_eq_none_iff.mpr fun other member same => first.1 ?_
        exact same ▸ List.mem_map_of_mem (List.mem_append_left rest member)
      have stored : (insert e.1 e.2 sorted ++ rest).Perm (e :: sorted ++ rest) :=
        (insert_perm free).append_right rest
      refine (ih _ ?_).trans (stored.trans moved.symm)
      exact (stored.map (·.1)).nodup_iff.mpr first
  exact onto entries [] nodup

theorem ascending_ofList [Std.TransOrd κ] (entries : List (κ × α)) : Ascending (ofList entries) :=
  List.foldlRecOn entries _ ascending_nil fun sorted ascending e _ => ascending_insert e.1 e.2 sorted ascending

/-- Entries with different keys can be brought into key order. -/
theorem exists_ascending [Std.TransOrd κ] (nodup : (entries.map (·.1)).Nodup) :
    ∃ sorted, Ascending sorted ∧ sorted.Perm entries :=
  ⟨ofList entries, ascending_ofList entries, ofList_perm nodup⟩

omit [Std.LawfulEqOrd κ] in
theorem ascending_iff_keys :
    Ascending entries ↔ (entries.map (·.1)).Pairwise (fun a b => compare a b = .lt) := by
  simp [Ascending, List.pairwise_map]

end Lookup

/-! ## Values changed under their keys -/

section Values

variable {κ α β : Type} [Ord κ] (key : κ) (φ : α → β) (entries : List (κ × α))

theorem map_insert (value : α) : (insert key value entries).map (fun e => (e.1, φ e.2)) =
    insert key (φ value) (entries.map fun e => (e.1, φ e.2)) := by
  induction entries with
  | nil => rfl
  | cons e rest ih =>
    rw [insert, List.map_cons, insert]
    split
    · rfl
    · rfl
    · rw [List.map_cons, ih]

theorem find?_map : find? key (entries.map fun e => (e.1, φ e.2)) = (find? key entries).map φ := by
  induction entries with
  | nil => rfl
  | cons e rest ih =>
    rw [List.map_cons, find?, find?, ih]
    split <;> rfl

theorem map_erase : (erase key entries).map (fun e => (e.1, φ e.2)) =
    erase key (entries.map fun e => (e.1, φ e.2)) := by
  rw [erase, erase, List.filter_map]
  rfl

end Values

/-! ## Entries besides one -/

section Besides

variable {κ α : Type} [Ord κ] [Std.TransOrd κ] [Std.LawfulEqOrd κ] {key : κ} {entries : List (κ × α)}

omit [Std.TransOrd κ] in
/-- Keys above one that is met are not met. -/
theorem erase_of_above {k : κ} (same : compare key k = .eq)
    (above : ∀ e ∈ entries, compare k e.1 = .lt) : erase key entries = entries := by
  have equal := Std.LawfulEqCmp.eq_of_compare same
  subst equal
  refine List.filter_eq_self.mpr fun e member => ?_
  rw [above e member]
  rfl

theorem insert_perm_erase (value : α) (ascending : Ascending entries) :
    (insert key value entries).Perm ((key, value) :: erase key entries) := by
  induction entries with
  | nil => exact .refl _
  | cons e rest ih =>
    obtain ⟨above, tail⟩ := List.pairwise_cons.mp ascending
    rw [insert]
    split
    · next less =>
      have before : ∀ other ∈ e :: rest, compare key other.1 = .lt := by
        intro other member
        rcases List.mem_cons.mp member with rfl | later
        · exact less
        · exact Std.TransCmp.lt_trans less (above other later)
      have all : erase key (e :: rest) = e :: rest := by
        refine List.filter_eq_self.mpr fun other member => ?_
        rw [before other member]
        rfl
      rw [all]
    · next same =>
      have dropped : erase key (e :: rest) = erase key rest := by simp [erase, same]
      rw [dropped, erase_of_above same above]
    · next greater =>
      have stays : erase key (e :: rest) = e :: erase key rest := by simp [erase, greater]
      rw [stays]
      exact ((ih tail).cons e).trans (.swap ..)

omit [Std.TransOrd κ] in
theorem perm_erase (key : κ) (ascending : Ascending entries) :
    entries.Perm ((find? key entries).toList.map (key, ·) ++ erase key entries) := by
  induction entries with
  | nil => exact .refl _
  | cons e rest ih =>
    obtain ⟨above, tail⟩ := List.pairwise_cons.mp ascending
    by_cases same : compare key e.1 = .eq
    · have equal := Std.LawfulEqCmp.eq_of_compare same
      have found : find? key (e :: rest) = some e.2 := by simp [find?, same]
      have dropped : erase key (e :: rest) = erase key rest := by simp [erase, same]
      rw [found, dropped, erase_of_above same above, equal]
      exact .refl _
    · have found : find? key (e :: rest) = find? key rest := by simp [find?, same]
      have stays : erase key (e :: rest) = e :: erase key rest := by simp [erase, same]
      rw [found, stays]
      exact ((ih tail).cons e).trans List.perm_middle.symm

end Besides

/-! ## Keys above all others -/

section Below

variable {κ α : Type} [Ord κ] [Std.TransOrd κ] {key : κ} {entries : List (κ × α)}

theorem find?_of_below (below : ∀ e ∈ entries, compare e.1 key = .lt) : find? key entries = none := by
  induction entries with
  | nil => rfl
  | cons e rest ih =>
    have greater := Std.OrientedCmp.gt_of_lt (below e List.mem_cons_self)
    rw [find?, greater, if_neg (by decide)]
    exact ih fun other later => below other (List.mem_cons_of_mem e later)

theorem insert_of_below (value : α) (below : ∀ e ∈ entries, compare e.1 key = .lt) :
    insert key value entries = entries ++ [(key, value)] := by
  induction entries with
  | nil => rfl
  | cons e rest ih =>
    have greater := Std.OrientedCmp.gt_of_lt (below e List.mem_cons_self)
    rw [insert, greater]
    exact congrArg (e :: ·) (ih fun other later => below other (List.mem_cons_of_mem e later))

theorem erase_of_below (below : ∀ e ∈ entries, compare e.1 key = .lt) : erase key entries = entries := by
  refine List.filter_eq_self.mpr fun e member => ?_
  rw [Std.OrientedCmp.gt_of_lt (below e member)]
  rfl

end Below

/-! ## Entries that have one order -/

section Order

variable {κ α : Type} [Ord κ] [Std.TransOrd κ] [Std.LawfulEqOrd κ] {key key' : κ} {value : α}
  {entries : List (κ × α)}

/-- Putting back what is stored changes nothing. -/
theorem insert_of_find? (ascending : Ascending entries) (found : find? key entries = some value) :
    insert key value entries = entries := by
  induction entries with
  | nil => contradiction
  | cons e rest ih =>
    obtain ⟨above, tail⟩ := List.pairwise_cons.mp ascending
    rw [find?] at found
    rw [insert]
    split at found
    · next same =>
      have equal := Std.LawfulEqCmp.eq_of_compare same
      rw [same]
      cases found
      rw [equal]
    · have below : compare e.1 key = .lt := above _ ((mem_iff_find? tail key value).mpr found)
      rw [Std.OrientedCmp.gt_of_lt below]
      exact congrArg (e :: ·) (ih tail found)

theorem insert_comm_of_lt (less : compare key key' = .lt) (a b : α) (entries : List (κ × α)) :
    insert key a (insert key' b entries) = insert key' b (insert key a entries) := by
  have greater : compare key' key = .gt := Std.OrientedCmp.gt_of_lt less
  induction entries with
  | nil => simp [insert, less, greater]
  | cons e rest ih =>
    cases below' : compare key' e.1 with
    | lt =>
      have below : compare key e.1 = .lt := Std.TransCmp.lt_trans less below'
      simp [insert, below, below', less, greater]
    | eq =>
      have below : compare key e.1 = .lt := Std.LawfulEqCmp.eq_of_compare below' ▸ less
      simp [insert, below, below', less, greater]
    | gt =>
      cases below : compare key e.1 with
      | lt => simp [insert, below, below', greater]
      | eq => simp [insert, below, below', greater]
      | gt => simp [insert, below, below', ih]

/-- Values under two keys are stored in either order, whatever the order of the entries is. -/
theorem insert_comm (differ : key ≠ key') (a b : α) (entries : List (κ × α)) :
    insert key a (insert key' b entries) = insert key' b (insert key a entries) := by
  cases order : compare key key' with
  | lt => exact insert_comm_of_lt order a b entries
  | eq => exact absurd (Std.LawfulEqCmp.eq_of_compare order) differ
  | gt => exact (insert_comm_of_lt (Std.OrientedCmp.lt_of_gt order) b a entries).symm

/-- Entries in key order are given by what is found among them. -/
theorem eq_of_find? {a b : List (κ × α)} (left : Ascending a) (right : Ascending b)
    (same : ∀ key, find? key a = find? key b) : a = b := by
  have distinct {entries : List (κ × α)} (ascending : Ascending entries) : entries.Nodup :=
    (List.pairwise_map.mp (nodup_keys ascending)).imp fun differ equal => differ (congrArg Prod.fst equal)
  refine eq_of_perm left right ((List.perm_ext_iff_of_nodup (distinct left) (distinct right)).mpr ?_)
  rintro ⟨key, value⟩
  rw [mem_iff_find? left, mem_iff_find? right, same]

/-- Before an entry stand those under smaller keys. -/
theorem find?_before {before after : List (κ × α)} {e : κ × α} (ascending : Ascending (before ++ e :: after)) :
    find? key before = some value ↔
      find? key (before ++ e :: after) = some value ∧ compare key e.1 = .lt := by
  obtain ⟨first, second, across⟩ := List.pairwise_append.mp ascending
  rw [← mem_iff_find? first, ← mem_iff_find? ascending]
  constructor
  · intro member
    exact ⟨List.mem_append_left _ member, across _ member e List.mem_cons_self⟩
  · rintro ⟨member, below⟩
    refine (List.mem_append.mp member).resolve_right fun late => ?_
    rcases List.mem_cons.mp late with rfl | later
    · simp [Std.ReflCmp.compare_self] at below
    · have above := (List.pairwise_cons.mp second).1 _ later
      rw [Std.OrientedCmp.gt_of_lt below] at above
      contradiction

omit [Std.LawfulEqOrd κ] in
/-- After an entry stand those under larger keys. -/
theorem find?_after {before after : List (κ × α)} {e : κ × α} (ascending : Ascending (before ++ e :: after))
    (above : compare e.1 key = .lt) : find? key (before ++ e :: after) = find? key after := by
  induction before with
  | nil => simp [find?, Std.OrientedCmp.gt_of_lt above]
  | cons first before ih =>
    obtain ⟨smaller, tail⟩ := List.pairwise_cons.mp ascending
    have below : compare first.1 key = .lt := Std.TransCmp.lt_trans (smaller e (by simp)) above
    rw [List.cons_append, find?, Std.OrientedCmp.gt_of_lt below, if_neg (by decide)]
    exact ih tail

end Order

end Ordered

/-! ## Sorted documents -/

instance Ordered.decidableAscending {κ α : Type} [Ord κ] (entries : List (κ × α)) :
    Decidable (Ascending entries) :=
  inferInstanceAs (Decidable (entries.Pairwise _))


namespace Document

variable {items : List Document} {fields : Fields}

theorem sortedItems_iff : SortedItems items ↔ ∀ d ∈ items, d.Sorted := by
  induction items with
  | nil => simp [SortedItems]
  | cons d rest ih => simp [SortedItems, ih]

theorem sortedFields_iff : SortedFields fields ↔ ∀ e ∈ fields, e.2.Sorted := by
  induction fields with
  | nil => simp [SortedFields]
  | cons e rest ih => simp [SortedFields, ih]

@[simp] theorem sorted_list_iff : (list items).Sorted ↔ ∀ d ∈ items, d.Sorted := by
  rw [Sorted, sortedItems_iff]

@[simp] theorem sorted_map_iff :
    (map fields).Sorted ↔ Ordered.Ascending fields ∧ ∀ e ∈ fields, e.2.Sorted := by
  rw [Sorted, sortedFields_iff]

/-- Fields with different keys make the same map in any order. -/
theorem ofFields_eq_iff {fields' : Fields} (nodup : (fields.map (·.1)).Nodup)
    (nodup' : (fields'.map (·.1)).Nodup) : ofFields fields = ofFields fields' ↔ fields.Perm fields' := by
  have perm := Ordered.ofList_perm nodup
  have perm' := Ordered.ofList_perm nodup'
  constructor
  · intro same
    have sorted : Ordered.ofList fields = Ordered.ofList fields' := Document.map.inj same
    rw [sorted] at perm
    exact perm.symm.trans perm'
  · intro reordered
    have ascending := Ordered.ascending_ofList fields
    have ascending' := Ordered.ascending_ofList fields'
    exact congrArg map (Ordered.eq_of_perm ascending ascending' (perm.trans (reordered.trans perm'.symm)))

theorem Sorted.field {key : String} {d : Document} (sorted : (map fields).Sorted)
    (found : Ordered.find? key fields = some d) : d.Sorted := by
  rw [sorted_map_iff] at sorted
  exact sorted.2 (key, d) ((Ordered.mem_iff_find? sorted.1 key d).mpr found)

mutual
/-- Whether a document is sorted can be computed. -/
def decidableSorted : (d : Document) → Decidable d.Sorted
  | .list items => decidableSortedItems items
  | .map fields => @instDecidableAnd _ _ (Ordered.decidableAscending fields) (decidableSortedFields fields)
  | .null | .bool _ | .number _ | .string _ => .isTrue trivial

/-- The same of all elements. -/
def decidableSortedItems : (items : List Document) → Decidable (SortedItems items)
  | [] => .isTrue trivial
  | d :: rest => @instDecidableAnd _ _ (decidableSorted d) (decidableSortedItems rest)

/-- The same of all fields. -/
def decidableSortedFields : (fields : List (String × Document)) → Decidable (SortedFields fields)
  | [] => .isTrue trivial
  | (_, d) :: rest => @instDecidableAnd _ _ (decidableSorted d) (decidableSortedFields rest)
end

instance (d : Document) : Decidable d.Sorted := decidableSorted d

end Document

end KubeOverlay
