import KubeOverlay.Proofs.Stops
/-!
# Leaves and obstacles

What an edit at a path comes to, told by places of the document: its leaves (`Leaf`) are the fields at
the end of the path, those that are there and those that are created; an obstacle (`Obstacle`) is a
value on the way that cannot be gone through. Every stop is a leaf or an obstacle
(`FieldPath.IsStop.leaf_of_passes`, `FieldPath.IsStop.obstacle_of_blocks`), and every leaf and every
obstacle is a stop unless it is below an obstacle (`Leaf.isStop`, `Obstacle.isStop`).
-/
namespace KubeOverlay

open Position (Before)
open FieldPath (slot? slot?_cases at?_insert_slot)

variable {create : Bool} {key : String} {path : FieldPath} {object fields : Fields} {items : List Document}
  {d slot value : Document} {q : Position} {step : Position.Step} {i : Nat} {stop : Stop}

/-! ## The last step of a place -/

namespace Position

theorem keys_append (p q : Position) : keys (p ++ q) = keys p ++ keys q := by
  induction p with
  | nil => rfl
  | cons step p ih => cases step <;> simp [ih]

theorem keys_ne_nil {name : String} (last : q.getLast? = some (.key name)) : q.keys ≠ [] := by
  obtain ⟨above, rfl⟩ := List.getLast?_eq_some_iff.mp last
  simp [keys_append]

theorem getLast?_inside (inside : q ≠ []) (step : Step) : (step :: q).getLast? = q.getLast? := by
  cases q with
  | nil => contradiction
  | cons next q => rw [List.getLast?_cons_cons]

end Position

open Position (getLast?_inside keys_ne_nil)

/-! ## Leaves -/

/-- A key on the way to a place is missing in a map, and there are only keys from there on. -/
def Missing (d : Document) (q : Position) : Prop :=
  ∃ (above : Position) (key : String) (rest : FieldPath) (fields : Fields),
    q = above ++ .key key :: rest.map .key ∧ d.at? above = some (.map fields) ∧ Ordered.find? key fields = none

/-- A field at the end of a path: one that is there, or one that is created since a key on the way is
missing. -/
structure Leaf (create : Bool) (path : FieldPath) (d : Document) (q : Position) : Prop where
  keys : q.keys = path
  last : ∃ name, q.getLast? = some (.key name)
  reached : (∃ value, d.at? q = some value) ∨ create = true ∧ Missing d q

theorem missing_map_iff : Missing (.map object) (.key key :: q) ↔
    (Ordered.find? key object = none ∧ ∃ rest : FieldPath, q = rest.map .key) ∨
      ∃ slot, Ordered.find? key object = some slot ∧ Missing slot q := by
  constructor
  · rintro ⟨above, first, rest, fields, split, there, absent⟩
    match above with
    | [] =>
      obtain ⟨same, rfl⟩ := List.cons_eq_cons.mp split
      cases same
      cases there
      exact .inl ⟨absent, rest, rfl⟩
    | step :: above =>
      obtain ⟨rfl, rfl⟩ := List.cons_eq_cons.mp split
      obtain ⟨slot, stored, deeper⟩ := Option.bind_eq_some_iff.mp there
      exact .inr ⟨slot, stored, above, first, rest, fields, rfl, deeper, absent⟩
  · rintro (⟨absent, rest, rfl⟩ | ⟨slot, stored, above, first, rest, fields, rfl, there, absent⟩)
    · exact ⟨[], key, rest, object, rfl, rfl, absent⟩
    · exact ⟨.key key :: above, first, rest, fields, rfl, by simp [stored, there], absent⟩

theorem missing_list_iff : Missing (.list items) (.index i :: q) ↔ ∃ d, items[i]? = some d ∧ Missing d q := by
  constructor
  · rintro ⟨above, first, rest, fields, split, there, absent⟩
    match above with
    | [] => cases there
    | step :: above =>
      obtain ⟨rfl, rfl⟩ := List.cons_eq_cons.mp split
      obtain ⟨d, stored, deeper⟩ := Option.bind_eq_some_iff.mp there
      exact ⟨d, stored, above, first, rest, fields, rfl, deeper, absent⟩
  · rintro ⟨d, stored, above, first, rest, fields, rfl, there, absent⟩
    exact ⟨.index i :: above, first, rest, fields, rfl, by simp [stored, there], absent⟩

/-- Only maps and lists have something missing in them. -/
theorem Missing.cases (missing : Missing d (step :: q)) :
    (∃ name fields, step = .key name ∧ d = .map fields) ∨ ∃ i items, step = .index i ∧ d = .list items := by
  obtain ⟨above, first, rest, fields, split, there, -⟩ := missing
  match above with
  | [] =>
    obtain ⟨rfl, -⟩ := List.cons_eq_cons.mp split
    rw [Document.at?_nil] at there
    exact .inl ⟨first, fields, rfl, Option.some.inj there⟩
  | step' :: above =>
    obtain ⟨rfl, -⟩ := List.cons_eq_cons.mp split
    cases step <;> cases d <;> simp_all [Document.at?]

theorem Leaf.ne_nil (leaf : Leaf create path d q) : q ≠ [] := by
  rintro rfl
  obtain ⟨name, last⟩ := leaf.last
  contradiction

/-- A leaf is a field of a map, or in an element of a list. -/
theorem Leaf.cases (leaf : Leaf create path d (step :: q)) :
    (∃ name fields, step = .key name ∧ d = .map fields) ∨ ∃ i items, step = .index i ∧ d = .list items := by
  rcases leaf.reached with ⟨value, there⟩ | ⟨-, missing⟩
  · cases step <;> cases d <;> simp_all [Document.at?]
  · exact missing.cases

theorem leaf_field (found : slot? create key object = some slot) : Leaf create [key] (.map object) [.key key] where
  keys := rfl
  last := ⟨key, rfl⟩
  reached := by
    rcases slot?_cases found with stored | ⟨absent, created, -⟩
    · exact .inl ⟨slot, by simp [stored]⟩
    · exact .inr ⟨created, [], key, [], object, rfl, rfl, absent⟩

/-- What is missing below a created map are the keys of the path. -/
theorem missing_empty (proper : path ≠ []) : Missing (.map []) (path.map .key) := by
  cases path with
  | nil => contradiction
  | cons key rest => exact ⟨[], key, rest, [], rfl, rfl, rfl⟩

theorem Leaf.inside_map (leaf : Leaf create path slot q) (found : slot? create key object = some slot) :
    Leaf create (key :: path) (.map object) (.key key :: q) where
  keys := by rw [Position.keys_key, leaf.keys]
  last := by
    rw [getLast?_inside leaf.ne_nil]
    exact leaf.last
  reached := by
    rcases slot?_cases found with stored | ⟨absent, created, rfl⟩
    · refine leaf.reached.imp ?_ fun ⟨created, missing⟩ => ⟨created, missing_map_iff.mpr (.inr ⟨slot, stored, missing⟩)⟩
      rintro ⟨value, there⟩
      exact ⟨value, by simp [stored, there]⟩
    · refine .inr ⟨created, missing_map_iff.mpr (.inl ⟨absent, ?_⟩)⟩
      rcases leaf.reached with ⟨value, there⟩ | ⟨-, above, first, rest, fields, rfl, there, -⟩
      · have inside := at?_insert_slot found leaf.ne_nil
        rw [there, Document.at?_key_map, absent] at inside
        contradiction
      · cases above with
        | nil => exact ⟨first :: rest, rfl⟩
        | cons step above => cases step <;> simp [Document.at?, Ordered.find?] at there

/-- A leaf of a map is the slot of the first key, or a leaf inside it. -/
theorem Leaf.below (leaf : Leaf create (key :: path) (.map object) q) : ∃ q' slot, q = .key key :: q' ∧
    slot? create key object = some slot ∧ (path = [] ∧ q' = [] ∨ Leaf create path slot q') := by
  obtain ⟨keys, ⟨name, last⟩, reached⟩ := id leaf
  match q with
  | [] => contradiction
  | .index i :: q =>
    rcases leaf.cases with ⟨_, _, step, -⟩ | ⟨_, _, -, shape⟩ <;> contradiction
  | .key other :: q =>
    obtain ⟨rfl, onwards⟩ := List.cons_eq_cons.mp keys
    by_cases ends : q = []
    · subst ends
      obtain rfl : path = [] := onwards.symm
      rcases reached with ⟨value, there⟩ | ⟨created, missing⟩
      · obtain ⟨slot, stored, -⟩ := Option.bind_eq_some_iff.mp there
        exact ⟨[], slot, rfl, by simp [slot?, stored], .inl ⟨rfl, rfl⟩⟩
      · rcases missing_map_iff.mp missing with ⟨absent, -⟩ | ⟨slot, stored, -⟩
        · exact ⟨[], .map [], rfl, by simp [slot?, absent, created], .inl ⟨rfl, rfl⟩⟩
        · exact ⟨[], slot, rfl, by simp [slot?, stored], .inl ⟨rfl, rfl⟩⟩
    · rw [getLast?_inside ends] at last
      rcases reached with ⟨value, there⟩ | ⟨created, missing⟩
      · obtain ⟨slot, stored, deeper⟩ := Option.bind_eq_some_iff.mp there
        exact ⟨q, slot, rfl, by simp [slot?, stored], .inr ⟨onwards, ⟨name, last⟩, .inl ⟨value, deeper⟩⟩⟩
      · rcases missing_map_iff.mp missing with ⟨absent, rest, rfl⟩ | ⟨slot, stored, missing⟩
        · have nonempty : rest ≠ [] := by simpa using ends
          have inner := missing_empty nonempty
          exact ⟨_, .map [], rfl, by simp [slot?, absent, created], .inr ⟨onwards, ⟨name, last⟩, .inr ⟨created, inner⟩⟩⟩
        · exact ⟨q, slot, rfl, by simp [slot?, stored], .inr ⟨onwards, ⟨name, last⟩, .inr ⟨created, missing⟩⟩⟩

theorem Leaf.inside_list (leaf : Leaf create path d q) (stored : items[i]? = some d) :
    Leaf create path (.list items) (.index i :: q) where
  keys := leaf.keys
  last := by
    rw [getLast?_inside leaf.ne_nil]
    exact leaf.last
  reached := by
    refine leaf.reached.imp ?_ fun ⟨created, missing⟩ => ⟨created, missing_list_iff.mpr ⟨d, stored, missing⟩⟩
    rintro ⟨value, there⟩
    exact ⟨value, by simp [stored, there]⟩

theorem Leaf.below_list (leaf : Leaf create path (.list items) q) :
    ∃ i d q', q = .index i :: q' ∧ items[i]? = some d ∧ Leaf create path d q' := by
  obtain ⟨keys, ⟨name, last⟩, reached⟩ := id leaf
  match q with
  | [] => contradiction
  | .key other :: q =>
    rcases leaf.cases with ⟨_, _, -, shape⟩ | ⟨_, _, step, -⟩ <;> contradiction
  | .index i :: q =>
    have inside : q ≠ [] := by
      rintro rfl
      cases last
    rw [getLast?_inside inside] at last
    rcases reached with ⟨value, there⟩ | ⟨created, missing⟩
    · obtain ⟨d, stored, deeper⟩ := Option.bind_eq_some_iff.mp there
      exact ⟨i, d, q, rfl, stored, keys, ⟨name, last⟩, .inl ⟨value, deeper⟩⟩
    · obtain ⟨d, stored, deeper⟩ := missing_list_iff.mp missing
      exact ⟨i, d, q, rfl, stored, keys, ⟨name, last⟩, .inr ⟨created, deeper⟩⟩

/-! ## Obstacles -/

/-- Under a key a walk goes through maps and lists, and as elements of a list through maps only. -/
def Position.Step.Blocks : Position.Step → Document → Prop
  | .key _, d => (∀ fields, d ≠ .map fields) ∧ ∀ items, d ≠ .list items
  | .index _, d => ∀ fields, d ≠ .map fields

/-- A value on the way of a path that a walk cannot go through. -/
structure Obstacle (path : FieldPath) (d : Document) (q : Position) (value : Document) : Prop where
  there : d.at? q = some value
  onTheWay : q.keys <+: path
  early : q.keys ≠ path
  blocks : ∃ step, q.getLast? = some step ∧ step.Blocks value

theorem Obstacle.ne_nil (obstacle : Obstacle path d q value) : q ≠ [] := by
  rintro rfl
  obtain ⟨step, last, -⟩ := obstacle.blocks
  contradiction

theorem Obstacle.inside_map (obstacle : Obstacle path slot q value) (stored : Ordered.find? key object = some slot) :
    Obstacle (key :: path) (.map object) (.key key :: q) value where
  there := by simp [stored, obstacle.there]
  onTheWay := List.cons_prefix_cons.mpr ⟨rfl, obstacle.onTheWay⟩
  early := by simpa using obstacle.early
  blocks := by
    rw [getLast?_inside obstacle.ne_nil]
    exact obstacle.blocks

theorem Obstacle.inside_list (obstacle : Obstacle path d q value) (stored : items[i]? = some d) :
    Obstacle path (.list items) (.index i :: q) value where
  there := by simp [stored, obstacle.there]
  onTheWay := obstacle.onTheWay
  early := obstacle.early
  blocks := by
    rw [getLast?_inside obstacle.ne_nil]
    exact obstacle.blocks

/-- An obstacle in a map stands under the first key, or inside of what does. -/
theorem Obstacle.below (obstacle : Obstacle (key :: path) (.map object) q value) : ∃ q' slot, q = .key key :: q' ∧
    Ordered.find? key object = some slot ∧ path ≠ [] ∧
      (q' = [] ∧ value = slot ∧ (Position.Step.key key).Blocks slot ∨ Obstacle path slot q' value) := by
  obtain ⟨there, onTheWay, early, last, ends, blocks⟩ := obstacle
  match q with
  | [] => contradiction
  | .index i :: q => cases there
  | .key other :: q =>
    obtain ⟨rfl, onwards⟩ := List.cons_prefix_cons.mp onTheWay
    have before : Position.keys q ≠ path := by simpa using early
    have proper : path ≠ [] := by
      rintro rfl
      exact before (List.prefix_nil.mp onwards)
    obtain ⟨slot, stored, deeper⟩ := Option.bind_eq_some_iff.mp there
    refine ⟨q, slot, rfl, stored, proper, ?_⟩
    by_cases inside : q = []
    · subst inside
      obtain rfl : .key other = last := by simpa using ends
      obtain rfl : slot = value := by simpa using deeper
      exact .inl ⟨rfl, rfl, blocks⟩
    · rw [getLast?_inside inside] at ends
      exact .inr ⟨deeper, onwards, before, last, ends, blocks⟩

theorem Obstacle.below_list (obstacle : Obstacle path (.list items) q value) : ∃ i d q', q = .index i :: q' ∧
    items[i]? = some d ∧ (q' = [] ∧ value = d ∧ (Position.Step.index i).Blocks d ∨ Obstacle path d q' value) := by
  obtain ⟨there, onTheWay, early, last, ends, blocks⟩ := obstacle
  match q with
  | [] => contradiction
  | .key other :: q => cases there
  | .index i :: q =>
    obtain ⟨d, stored, deeper⟩ := Option.bind_eq_some_iff.mp there
    refine ⟨i, d, q, rfl, stored, ?_⟩
    by_cases inside : q = []
    · subst inside
      obtain rfl : .index i = last := by simpa using ends
      obtain rfl : d = value := by simpa using deeper
      exact .inl ⟨rfl, rfl, blocks⟩
    · rw [getLast?_inside inside] at ends
      exact .inr ⟨deeper, onTheWay, early, last, ends, blocks⟩

/-- Inside of what is neither a map nor a list nothing is in the way. -/
theorem Obstacle.cases (obstacle : Obstacle path d q value) : (∃ fields, d = .map fields) ∨ ∃ items, d = .list items := by
  have there := obstacle.there
  match q with
  | [] => exact absurd rfl obstacle.ne_nil
  | .key _ :: _ => cases d <;> simp_all [Document.at?]
  | .index _ :: _ => cases d <;> simp_all [Document.at?]

/-! ## What is a stop -/

namespace FieldPath

/-- The stops by what stands under the first key. -/
inductive IsStop (create : Bool) : FieldPath → Fields → Stop → Prop where
  | leaf {key : String} {object : Fields} {d : Document} (found : slot? create key object = some d) :
    IsStop create [key] object ⟨[.key key], d, false⟩
  | inMap {key next : String} {rest : FieldPath} {object fields : Fields} {stop : Stop}
    (found : slot? create key object = some (.map fields)) (inner : IsStop create (next :: rest) fields stop) :
    IsStop create (key :: next :: rest) object (stop.inside (.key key))
  | inElement {key next : String} {rest : FieldPath} {object fields : Fields} {items : List Document} {i : Nat}
    {stop : Stop} (found : slot? create key object = some (.list items)) (stored : items[i]? = some (.map fields))
    (inner : IsStop create (next :: rest) fields stop) :
    IsStop create (key :: next :: rest) object ((stop.inside (.index i)).inside (.key key))
  | element {key next : String} {rest : FieldPath} {object : Fields} {items : List Document} {i : Nat}
    {d : Document} (found : slot? create key object = some (.list items)) (stored : items[i]? = some d)
    (blocks : (Position.Step.index i).Blocks d) :
    IsStop create (key :: next :: rest) object ⟨[.key key, .index i], d, true⟩
  | value {key next : String} {rest : FieldPath} {object : Fields} {d : Document}
    (found : slot? create key object = some d) (blocks : (Position.Step.key key).Blocks d) :
    IsStop create (key :: next :: rest) object ⟨[.key key], d, true⟩

theorem exists_getElem?_cons {α : Type} {a : α} {rest : List α} {P : Nat → α → Prop} :
    (∃ i b, (a :: rest)[i]? = some b ∧ P i b) ↔ P 0 a ∨ ∃ i b, rest[i]? = some b ∧ P (i + 1) b := by
  constructor
  · rintro ⟨i, b, stored, holds⟩
    cases i with
    | zero =>
      cases stored
      exact .inl holds
    | succ i => exact .inr ⟨i, b, stored, holds⟩
  · rintro (holds | ⟨i, b, stored, holds⟩)
    · exact ⟨0, a, rfl, holds⟩
    · exact ⟨i + 1, b, stored, holds⟩

theorem mem_stopsInItems {inside : Fields → List Stop} {index : Nat} :
    stop ∈ stopsInItems inside index items ↔ ∃ i d, items[i]? = some d ∧
      ((∃ fields inner, d = .map fields ∧ inner ∈ inside fields ∧ stop = inner.inside (.index (index + i))) ∨
        (Position.Step.index (index + i)).Blocks d ∧ stop = ⟨[.index (index + i)], d, true⟩) := by
  induction items generalizing index with
  | nil => simp [stopsInItems]
  | cons d rest ih =>
    rw [exists_getElem?_cons]
    have shift : ∀ i, index + 1 + i = index + (i + 1) := by
      intro i
      omega
    cases d with
    | map fields => simp [stopsInItems, ih, shift, Position.Step.Blocks, eq_comm]
    | _ => simp [stopsInItems, ih, shift, Position.Step.Blocks]

theorem mem_stops_iff : stop ∈ stops create path object ↔ IsStop create path object stop := by
  induction path generalizing object stop with
  | nil =>
    rw [stops]
    constructor
    · intro member
      contradiction
    · intro isStop
      cases isStop
  | cons key path ih =>
    cases path with
    | nil =>
      rw [stops]
      constructor
      · intro member
        split at member
        · contradiction
        · next d found =>
          rw [List.mem_singleton.mp member]
          exact .leaf found
      · intro isStop
        cases isStop with
        | leaf found =>
          rw [found]
          exact List.mem_singleton_self _
    | cons next rest =>
      rw [stops]
      constructor
      · intro member
        split at member
        · contradiction
        · next fields found =>
          obtain ⟨inner, below, rfl⟩ := List.mem_map.mp member
          exact .inMap found (ih.mp below)
        · next items found =>
          obtain ⟨inner, below, rfl⟩ := List.mem_map.mp member
          obtain ⟨i, d, stored, ⟨fields, inner, rfl, deeper, rfl⟩ | ⟨blocks, rfl⟩⟩ := mem_stopsInItems.mp below
          · rw [Nat.zero_add]
            exact .inElement found stored (ih.mp deeper)
          · rw [Nat.zero_add] at blocks ⊢
            exact .element found stored blocks
        · next d notMap notList found =>
          rw [List.mem_singleton.mp member]
          exact .value found ⟨notMap, notList⟩
      · intro isStop
        cases isStop with
        | inMap found inner =>
          rw [found]
          exact List.mem_map_of_mem (ih.mpr inner)
        | @inElement _ _ _ _ fields items i inner found stored below =>
          rw [found]
          refine List.mem_map_of_mem (mem_stopsInItems.mpr ⟨i, .map fields, stored, .inl ⟨fields, inner, rfl, ?_, ?_⟩⟩)
          · exact ih.mpr below
          · rw [Nat.zero_add]
        | @element _ _ _ _ items i d found stored blocks =>
          rw [found]
          refine List.mem_map.mpr ⟨⟨[.index i], d, true⟩, mem_stopsInItems.mpr ⟨i, d, stored, .inr ⟨blocks, ?_⟩⟩, rfl⟩
          rw [Nat.zero_add]
        | @value _ _ _ _ d found blocks =>
          rw [found]
          cases d with
          | map fields => exact absurd rfl (blocks.1 fields)
          | list items => exact absurd rfl (blocks.2 items)
          | _ => exact List.mem_singleton_self _

/-- What is read at a place below a slot. -/
theorem getD_at?_slot (found : slot? create key object = some slot) (inside : q ≠ []) :
    ((Document.map object).at? (.key key :: q)).getD (.map []) = (slot.at? q).getD (.map []) := by
  rw [at?_insert_slot found inside]

theorem slot?_of_blocks (found : slot? create key object = some d) (blocks : (Position.Step.key key).Blocks d) :
    Ordered.find? key object = some d := by
  rcases slot?_cases found with stored | ⟨-, -, rfl⟩
  · exact stored
  · exact absurd rfl (blocks.1 [])

theorem slot?_of_list (found : slot? create key object = some (.list items)) :
    Ordered.find? key object = some (.list items) := by
  rcases slot?_cases found with stored | ⟨-, -, created⟩
  · exact stored
  · contradiction

/-- A stop that does not block is a leaf, with the value there or an empty map. -/
theorem IsStop.leaf_of_passes (isStop : IsStop create path object stop) (passes : stop.blocks = false) :
    Leaf create path (.map object) stop.place ∧
      stop.value = ((Document.map object).at? stop.place).getD (.map []) := by
  induction isStop with
  | leaf found =>
    refine ⟨leaf_field found, ?_⟩
    rcases slot?_cases found with stored | ⟨absent, -, rfl⟩
    · simp [stored]
    · simp [absent]
  | inMap found inner ih =>
    obtain ⟨leaf, value⟩ := ih passes
    refine ⟨leaf.inside_map found, ?_⟩
    rw [Stop.inside, getD_at?_slot found leaf.ne_nil]
    exact value
  | @inElement key _ _ object fields items i inner found stored _ ih =>
    obtain ⟨leaf, value⟩ := ih passes
    refine ⟨(leaf.inside_list stored).inside_map found, ?_⟩
    rw [Stop.inside, getD_at?_slot found (by simp [Stop.inside])]
    simpa [Stop.inside, stored] using value
  | element => contradiction
  | value => contradiction

theorem IsStop.obstacle_of_blocks (isStop : IsStop create path object stop) (isBlocked : stop.blocks = true) :
    Obstacle path (.map object) stop.place stop.value := by
  induction isStop with
  | leaf => contradiction
  | inMap found inner ih =>
    have below := ih isBlocked
    rcases slot?_cases found with stored | ⟨absent, -, created⟩
    · exact below.inside_map stored
    · cases created
      have nothing := at?_insert_slot found below.ne_nil
      rw [below.there, Document.at?_key_map, absent] at nothing
      contradiction
  | inElement found stored _ ih => exact ((ih isBlocked).inside_list stored).inside_map (slot?_of_list found)
  | @element key next rest object items i d found stored blocks =>
    have here := slot?_of_list found
    refine ⟨by simp [here, stored], ?_, by simp, .index i, rfl, blocks⟩
    exact List.cons_prefix_cons.mpr ⟨rfl, List.nil_prefix⟩
  | @value key next rest object d found blocks =>
    have here := slot?_of_blocks found blocks
    refine ⟨by simp [here], ?_, by simp, .key key, rfl, blocks⟩
    exact List.cons_prefix_cons.mpr ⟨rfl, List.nil_prefix⟩

end FieldPath

open FieldPath (IsStop stops stopsInItems mem_stops_iff mem_stopsInItems)

/-- A place is behind a stop that blocks. -/
def Stop.Bars (stop : Stop) (q : Position) : Prop := stop.blocks = true ∧ stop.place <+: q ∧ stop.place ≠ q

theorem Stop.Bars.inside (bars : stop.Bars q) (step : Position.Step) : (stop.inside step).Bars (step :: q) := by
  obtain ⟨blocks, above, differs⟩ := bars
  exact ⟨blocks, List.cons_prefix_cons.mpr ⟨rfl, above⟩, by simpa [Stop.inside] using differs⟩

/-- An element that is no map bars what is in it. -/
theorem bars_of_element (inside : q ≠ []) (key : String) (i : Nat) (d : Document) :
    Stop.Bars ⟨[.key key, .index i], d, true⟩ (.key key :: .index i :: q) :=
  ⟨rfl, ⟨q, rfl⟩, by simpa using inside.symm⟩

theorem Leaf.isStop (leaf : Leaf create path (.map object) q) : ∃ stop, IsStop create path object stop ∧
    (stop.blocks = false ∧ stop.place = q ∨ stop.Bars q) := by
  induction path generalizing object q with
  | nil =>
    obtain ⟨name, last⟩ := leaf.last
    exact absurd leaf.keys (keys_ne_nil last)
  | cons key path ih =>
    obtain ⟨q', slot, rfl, found, ⟨rfl, rfl⟩ | below⟩ := leaf.below
    · exact ⟨_, .leaf found, .inl ⟨rfl, rfl⟩⟩
    · cases path with
      | nil =>
        obtain ⟨name, last⟩ := below.last
        exact absurd below.keys (keys_ne_nil last)
      | cons next rest =>
        cases slot with
        | map fields =>
          obtain ⟨stop, isStop, ⟨passes, rfl⟩ | bars⟩ := ih below
          · exact ⟨_, .inMap found isStop, .inl ⟨passes, rfl⟩⟩
          · exact ⟨_, .inMap found isStop, .inr (bars.inside _)⟩
        | list items =>
          obtain ⟨i, d, q'', rfl, stored, deeper⟩ := below.below_list
          cases d with
          | map fields =>
            obtain ⟨stop, isStop, ⟨passes, rfl⟩ | bars⟩ := ih deeper
            · exact ⟨_, .inElement found stored isStop, .inl ⟨passes, rfl⟩⟩
            · exact ⟨_, .inElement found stored isStop, .inr ((bars.inside _).inside _)⟩
          | _ => exact ⟨_, .element found stored (by simp [Position.Step.Blocks]), .inr (bars_of_element deeper.ne_nil ..)⟩
        | _ =>
          cases q' with
          | nil => exact absurd rfl below.ne_nil
          | cons _ _ => rcases below.cases with ⟨_, _, -, shape⟩ | ⟨_, _, -, shape⟩ <;> contradiction

theorem Obstacle.isStop (create : Bool) (obstacle : Obstacle path (.map object) q value) :
    ∃ stop, IsStop create path object stop ∧ (stop = ⟨q, value, true⟩ ∨ stop.Bars q) := by
  induction path generalizing object q with
  | nil => exact absurd (List.prefix_nil.mp obstacle.onTheWay) obstacle.early
  | cons key path ih =>
    obtain ⟨q', slot, rfl, stored, proper, here⟩ := obstacle.below
    have found : slot? create key object = some slot := by simp [slot?, stored]
    cases path with
    | nil => contradiction
    | cons next rest =>
      rcases here with ⟨rfl, rfl, blocks⟩ | below
      · exact ⟨_, .value found blocks, .inl rfl⟩
      · rcases below.cases with ⟨fields, rfl⟩ | ⟨items, rfl⟩
        · obtain ⟨stop, isStop, rfl | bars⟩ := ih below
          · exact ⟨_, .inMap found isStop, .inl rfl⟩
          · exact ⟨_, .inMap found isStop, .inr (bars.inside _)⟩
        · obtain ⟨i, d, q'', rfl, at_i, ⟨rfl, rfl, blocks⟩ | deeper⟩ := below.below_list
          · exact ⟨_, .element found at_i blocks, .inl rfl⟩
          · cases d with
            | map fields =>
              obtain ⟨stop, isStop, rfl | bars⟩ := ih deeper
              · exact ⟨_, .inElement found at_i isStop, .inl rfl⟩
              · exact ⟨_, .inElement found at_i isStop, .inr ((bars.inside _).inside _)⟩
            | _ =>
              exact ⟨_, .element found at_i (by simp [Position.Step.Blocks]), .inr (bars_of_element deeper.ne_nil ..)⟩

/-! ## The order of stops -/

namespace FieldPath

theorem pairwise_inside {list : List Stop} (ordered : list.Pairwise fun a b => Before a.place b.place)
    (step : Position.Step) : (list.map (Stop.inside step)).Pairwise fun a b => Before a.place b.place :=
  List.pairwise_map.mpr (ordered.imp fun before => .cons before)

theorem stopsInItems_pairwise {inside : Fields → List Stop}
    (each : ∀ fields, (inside fields).Pairwise fun a b => Before a.place b.place) (items : List Document) (index : Nat) :
    (stopsInItems inside index items).Pairwise fun a b => Before a.place b.place := by
  induction items generalizing index with
  | nil => exact .nil
  | cons d rest ih =>
    have later : ∀ stop ∈ stopsInItems inside (index + 1) rest, ∀ q, Before (.index index :: q) stop.place := by
      intro stop member q
      obtain ⟨i, d, -, ⟨fields, inner, -, -, rfl⟩ | ⟨-, rfl⟩⟩ := mem_stopsInItems.mp member
      · exact .rel (show index < index + 1 + i by omega)
      · exact .rel (show index < index + 1 + i by omega)
    cases d with
    | map fields =>
      rw [stopsInItems, List.pairwise_append]
      refine ⟨pairwise_inside (each fields) _, ih (index + 1), fun a first b second => ?_⟩
      obtain ⟨inner, -, rfl⟩ := List.mem_map.mp first
      exact later b second inner.place
    | _ => exact List.pairwise_cons.mpr ⟨fun b second => later b second [], ih (index + 1)⟩

/-- Stops come in document order. -/
theorem stops_pairwise (create : Bool) (path : FieldPath) (object : Fields) :
    (stops create path object).Pairwise fun a b => Before a.place b.place := by
  induction path generalizing object with
  | nil => exact .nil
  | cons key path ih =>
    cases path with
    | nil =>
      rw [stops]
      split
      · exact .nil
      · exact List.pairwise_singleton ..
    | cons next rest =>
      rw [stops]
      split
      · exact .nil
      · exact pairwise_inside (ih _) _
      · exact pairwise_inside (stopsInItems_pairwise ih _ 0) _
      · exact List.pairwise_singleton ..

end FieldPath

/-! ## Leaves as places to put values at -/

theorem fits_keys (rest : FieldPath) : (Document.map []).Fits (rest.map .key) := by
  induction rest with
  | nil => trivial
  | cons key rest ih => exact ih

theorem fits_append {above : Position} (there : d.at? above = some value) (fits : value.Fits q) :
    d.Fits (above ++ q) := by
  induction above generalizing d with
  | nil =>
    rw [Document.at?_nil] at there
    exact Option.some.inj there ▸ fits
  | cons step above ih =>
    cases step with
    | key name =>
      obtain ⟨fields, below, rfl, stored, deeper⟩ := Document.at?_key_eq_some there
      rw [List.cons_append, Document.Fits, stored, Option.getD_some]
      exact ih deeper
    | index i =>
      cases d with
      | list items =>
        obtain ⟨below, stored, deeper⟩ := Option.bind_eq_some_iff.mp there
        exact ⟨below, stored, ih deeper⟩
      | _ => contradiction

theorem Leaf.fits (leaf : Leaf create path d q) : d.Fits q := by
  rcases leaf.reached with ⟨value, there⟩ | ⟨-, above, key, rest, fields, rfl, there, absent⟩
  · rw [← List.append_nil q]
    exact fits_append there trivial
  · refine fits_append there ?_
    rw [Document.Fits, absent]
    exact fits_keys rest

/-- Different leaves are not inside one another. -/
theorem Leaf.aside {p : Position} (left : Leaf create path d p) (right : Leaf create path d q) (differs : p ≠ q) :
    p.Aside q := by
  have above {p q : Position} (left : Leaf create path d p) (right : Leaf create path d q) (start : p <+: q) : p = q := by
    obtain ⟨inner, rfl⟩ := start
    obtain ⟨name, last⟩ := right.last
    by_cases nothing : inner = []
    · simp [nothing]
    · -- More steps after the same keys are steps into lists.
      have keys : Position.keys inner = [] := by
        have same := right.keys
        rw [Position.keys_append, left.keys] at same
        exact List.append_cancel_left (same.trans (List.append_nil path).symm)
      rw [List.getLast?_append_of_ne_nil _ nothing] at last
      exact absurd keys (keys_ne_nil last)
  exact ⟨fun start => differs (above left right start), fun start => differs (above right left start).symm⟩

end KubeOverlay
