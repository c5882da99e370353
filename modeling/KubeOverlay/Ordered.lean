/-!
# Entries in key order

Finite maps as lists of entries whose keys ascend. Storing a value under a key and removing a key
keep the order (`ascending_insert`, `ascending_erase`), and a look-up afterwards finds the change
under that key and what was there before under every other.
-/
namespace KubeOverlay.Ordered

variable {κ α : Type} [Ord κ]

/-- The keys ascend, so none occurs twice. -/
def Ascending (entries : List (κ × α)) : Prop :=
  entries.Pairwise (fun a b => compare a.1 b.1 = .lt)

/-- The value stored under a key. -/
def find? (key : κ) : List (κ × α) → Option α
  | [] => none
  | (k, a) :: rest => if compare key k = .eq then some a else find? key rest

/-- Whether a key is present. -/
def contains (key : κ) (entries : List (κ × α)) : Bool :=
  (find? key entries).isSome

/-- A value stored under a key, in place of the one that was there. -/
def insert (key : κ) (value : α) : List (κ × α) → List (κ × α)
  | [] => [(key, value)]
  | (k, a) :: rest =>
    match compare key k with
    | .lt => (key, value) :: (k, a) :: rest
    | .eq => (key, value) :: rest
    | .gt => (k, a) :: insert key value rest

/-- The entries without those of a key. -/
def erase (key : κ) (entries : List (κ × α)) : List (κ × α) :=
  entries.filter (fun e => compare key e.1 != .eq)

/-- Entries in any order brought into key order; of equal keys the last one stays. -/
def ofList (entries : List (κ × α)) : List (κ × α) :=
  entries.foldl (fun sorted e => insert e.1 e.2 sorted) []

/-! ## Look-up after a change -/

theorem find?_insert_self [Std.ReflOrd κ] (key : κ) (value : α) (entries : List (κ × α)) :
    find? key (insert key value entries) = some value := by
  induction entries with
  | nil => simp [insert, find?, Std.ReflCmp.compare_self]
  | cons e rest ih =>
    obtain ⟨k, a⟩ := e
    simp only [insert]
    split
    · simp [find?, Std.ReflCmp.compare_self]
    · simp [find?, Std.ReflCmp.compare_self]
    · next h => simp [find?, h, ih]

theorem find?_insert_of_ne [Std.LawfulEqOrd κ] (key other : κ) (value : α)
    (entries : List (κ × α)) (differ : other ≠ key) :
    find? other (insert key value entries) = find? other entries := by
  have apart : compare other key ≠ .eq := fun h => differ (Std.LawfulEqCmp.eq_of_compare h)
  induction entries with
  | nil => simp [insert, find?, apart]
  | cons e rest ih =>
    obtain ⟨k, a⟩ := e
    simp only [insert]
    split
    · simp [find?, apart]
    · next h =>
      have same := Std.LawfulEqCmp.eq_of_compare h
      subst same
      simp [find?, apart]
    · simp only [find?, ih]

theorem find?_erase_self (key : κ) (entries : List (κ × α)) :
    find? key (erase key entries) = none := by
  induction entries with
  | nil => rfl
  | cons e rest ih =>
    obtain ⟨k, a⟩ := e
    simp only [erase] at ih ⊢
    by_cases h : compare key k = .eq <;> simp [h, find?, ih]

theorem find?_erase_of_ne [Std.LawfulEqOrd κ] (key other : κ)
    (entries : List (κ × α)) (differ : other ≠ key) :
    find? other (erase key entries) = find? other entries := by
  induction entries with
  | nil => rfl
  | cons e rest ih =>
    obtain ⟨k, a⟩ := e
    simp only [erase] at ih ⊢
    by_cases h : compare key k = .eq
    · have same := Std.LawfulEqCmp.eq_of_compare h
      subst same
      have apart : compare other key ≠ .eq := fun h => differ (Std.LawfulEqCmp.eq_of_compare h)
      simp [Std.ReflCmp.compare_self, find?, apart, ih]
    · simp [h, find?, ih]

/-! ## The order is kept -/

theorem ascending_nil : Ascending ([] : List (κ × α)) :=
  List.Pairwise.nil

theorem mem_insert {key : κ} {value : α} {entries : List (κ × α)} {e : κ × α}
    (found : e ∈ insert key value entries) : e = (key, value) ∨ e ∈ entries := by
  induction entries with
  | nil => simpa [insert] using found
  | cons head rest ih =>
    obtain ⟨k, a⟩ := head
    simp only [insert] at found
    split at found
    · simpa using found
    · rcases List.mem_cons.mp found with h | h
      · exact .inl h
      · exact .inr (List.mem_cons_of_mem _ h)
    · rcases List.mem_cons.mp found with h | h
      · exact .inr (h ▸ List.mem_cons_self)
      · exact (ih h).imp_right (List.mem_cons_of_mem _)

theorem ascending_insert [Std.TransOrd κ] [Std.LawfulEqOrd κ] (key : κ) (value : α)
    (entries : List (κ × α)) (ascending : Ascending entries) :
    Ascending (insert key value entries) := by
  induction entries with
  | nil => simp [insert, Ascending]
  | cons head rest ih =>
    obtain ⟨k, a⟩ := head
    have ⟨above, tail⟩ := List.pairwise_cons.mp ascending
    simp only [insert]
    split
    · next h =>
      refine List.pairwise_cons.mpr ⟨fun e found => ?_, ascending⟩
      rcases List.mem_cons.mp found with rfl | later
      · exact h
      · exact Std.TransCmp.lt_trans h (above e later)
    · next h =>
      have same := Std.LawfulEqCmp.eq_of_compare h
      subst same
      exact List.pairwise_cons.mpr ⟨fun e later => above e later, tail⟩
    · next h =>
      refine List.pairwise_cons.mpr ⟨fun e found => ?_, ih tail⟩
      rcases mem_insert found with rfl | later
      · exact Std.OrientedCmp.lt_of_gt h
      · exact above e later

theorem ascending_erase (key : κ) (entries : List (κ × α)) (ascending : Ascending entries) :
    Ascending (erase key entries) :=
  List.Pairwise.filter _ ascending

end KubeOverlay.Ordered
