import KubeOverlay.Proofs.Editing
import KubeOverlay.Proofs.KeyOrder
import KubeOverlay.Proofs.StableReferences
import Mathlib.Data.List.Lex
/-!
# The stops of a walk

An edit at a path walks through a document and changes it on the way. What it comes to can be told
beforehand: the places at the end of the path, and the values that it cannot go through
(`FieldPath.stops`). The edit is a loop over these stops that puts a result at each of them, and ends
where one is in the way or refused (`FieldPath.editFrom_eq_follow`).
-/
namespace KubeOverlay

/-! ## Places -/

namespace Position

variable {p q r : Position} {step : Step}

/-- An element comes before the later ones of its list. -/
def Step.Before : Step → Step → Prop
  | .index i, .index j => i < j
  | _, _ => False

instance : Std.Asymm Step.Before where
  asymm a b first second := by
    cases a <;> cases b <;> simp only [Step.Before] at first second
    omega

/-- Document order. What is around something comes before it, and elements come as in their list. -/
def Before : Position → Position → Prop := List.Lex Step.Before

instance : Std.Asymm Before := inferInstanceAs (Std.Asymm (List.Lex Step.Before))

theorem Before.trans (first : Before p q) (second : Before q r) : Before p r := by
  induction first generalizing r with
  | nil => cases second <;> exact .nil
  | rel less =>
    cases second with
    | rel less' =>
      refine .rel ?_
      rename_i a _ b _ c _
      cases a <;> cases b <;> cases c <;> simp only [Step.Before] at less less' ⊢
      omega
    | cons => exact .rel less
  | cons _ ih =>
    cases second with
    | rel less => exact .rel less
    | cons second => exact .cons (ih second)

theorem before_of_prefix (start : p <+: q) (differs : p ≠ q) : Before p q := by
  obtain ⟨inner, rfl⟩ := start
  induction p with
  | nil =>
    cases inner with
    | nil => contradiction
    | cons step inner => exact .nil
  | cons step p ih => exact .cons (ih (by simpa using differs))

/-- Neither of two places is inside the other. -/
def Aside (p q : Position) : Prop := ¬ p <+: q ∧ ¬ q <+: p

theorem Aside.symm (aside : p.Aside q) : q.Aside p := ⟨aside.2, aside.1⟩

theorem not_aside_nil (p : Position) : ¬ p.Aside [] := fun aside => aside.2 List.nil_prefix

theorem aside_cons_self : Aside (step :: p) (step :: q) ↔ p.Aside q := by
  simp [Aside, List.cons_prefix_cons]

end Position

open Position (Before Aside)

/-! ## Putting a value at a place -/

namespace Document

variable {p q : Position} {d new : Document} {fields : Fields} {items : List Document} {name : String}

/-- The document with a value at a place. Maps that are missing on the way are created. -/
def put (new : Document) : Position → Document → Document
  | [], _ => new
  | .key name :: q, .map fields =>
    .map (Ordered.insert name (put new q ((Ordered.find? name fields).getD (.map []))) fields)
  | .index i :: q, .list items => .list (items.modify i (put new q))
  | _ :: _, d => d

/-- A value can be put at a place. -/
def Fits : Position → Document → Prop
  | [], _ => True
  | .key name :: q, .map fields => Fits q ((Ordered.find? name fields).getD (.map []))
  | .index i :: q, .list items => ∃ d, items[i]? = some d ∧ Fits q d
  | _ :: _, _ => False

/-- What is missing is like an empty map in that nothing is in it. -/
theorem at?_getD (inside : q ≠ []) : ((Ordered.find? name fields).getD (.map [])).at? q =
    (map fields).at? (.key name :: q) := by
  rw [at?_key_map]
  cases Ordered.find? name fields with
  | some d => rfl
  | none =>
    match q with
    | [] => contradiction
    | .key _ :: _ => rfl
    | .index _ :: _ => rfl

theorem at?_put_of_aside (aside : q.Aside p) : (put new p d).at? q = d.at? q := by
  induction p generalizing q d with
  | nil => exact absurd aside (Position.not_aside_nil q)
  | cons step p ih =>
    match q with
    | [] => exact absurd aside.symm (Position.not_aside_nil _)
    | other :: q =>
      cases step with
      | key name =>
        cases d with
        | map fields =>
          rw [put]
          by_cases same : other = .key name
          · subst same
            have deeper := Position.aside_cons_self.mp aside
            have inside : q ≠ [] := by
              rintro rfl
              exact Position.not_aside_nil p deeper.symm
            rw [at?_insert_self, ih deeper, at?_getD inside]
          · cases other with
            | key other => exact at?_insert_of_ne q _ fields fun equal => same (by rw [equal])
            | index j => rfl
        | _ => rfl
      | index i =>
        cases d with
        | list items =>
          rw [put]
          cases other with
          | key other => rfl
          | index j =>
            rw [at?_index_list, at?_index_list, List.getElem?_modify]
            cases items[j]? with
            | none => rfl
            | some below =>
              by_cases same : i = j
              · subst same
                simpa using ih (Position.aside_cons_self.mp aside)
              · simp [same]
        | _ => rfl

theorem at?_put_self (fits : d.Fits p) : (put new p d).at? p = some new := by
  induction p generalizing d with
  | nil => exact at?_nil new
  | cons step p ih =>
    cases step with
    | key name =>
      cases d with
      | map fields =>
        rw [put, at?_insert_self]
        exact ih fits
      | _ => exact fits.elim
    | index i =>
      cases d with
      | list items =>
        obtain ⟨below, stored, fits⟩ := fits
        rw [put, at?_index_list, List.getElem?_modify, stored]
        simpa using ih fits
      | _ => exact fits.elim

theorem Fits.put (fits : d.Fits q) (aside : q.Aside p) : (put new p d).Fits q := by
  induction q generalizing p d with
  | nil => trivial
  | cons step q ih =>
    match p with
    | [] => exact absurd aside (Position.not_aside_nil _)
    | other :: p =>
      cases step with
      | key name =>
        cases d with
        | map fields =>
          cases other with
          | key other =>
            rw [Document.put, Fits]
            by_cases same : name = other
            · subst same
              rw [Ordered.find?_insert_self, Option.getD_some]
              exact ih fits (Position.aside_cons_self.mp aside)
            · rw [Ordered.find?_insert_of_ne other name _ fields same]
              exact fits
          | index j => exact fits
        | _ => exact fits.elim
      | index i =>
        cases d with
        | list items =>
          obtain ⟨below, stored, deeper⟩ := fits
          cases other with
          | key other => exact ⟨below, stored, deeper⟩
          | index j =>
            rw [Document.put, Fits]
            by_cases same : j = i
            · subst same
              refine ⟨Document.put new p below, by simp [stored], ?_⟩
              exact ih deeper (Position.aside_cons_self.mp aside)
            · exact ⟨below, by simp [stored, same], deeper⟩
        | _ => exact fits.elim

end Document

/-! ## Stops -/

/-- What a walk along a path comes to at a place: the value at the end of the path, or one that it cannot
go through. -/
structure Stop where
  place : Position
  value : Document
  blocks : Bool

/-- The same stop in a part of a document. -/
def Stop.inside (step : Position.Step) (stop : Stop) : Stop := { stop with place := step :: stop.place }

namespace FieldPath

open Document

variable {σ : Type}

/-- The stops in the elements of a list from an index on. -/
def stopsInItems (inside : Fields → List Stop) : Nat → List Document → List Stop
  | _, [] => []
  | index, .map fields :: rest => (inside fields).map (.inside (.index index)) ++ stopsInItems inside (index + 1) rest
  | index, d :: rest => ⟨[.index index], d, true⟩ :: stopsInItems inside (index + 1) rest

/-- The stops of a walk along a path, in document order. What is missing is created as an empty map, or
there is no stop. -/
def stops (create : Bool) : FieldPath → Fields → List Stop
  | [], _ => []
  | [key], object =>
    match slot? create key object with
    | none => []
    | some d => [⟨[.key key], d, false⟩]
  | key :: next :: rest, object =>
    match slot? create key object with
    | none => []
    | some (.map fields) => (stops create (next :: rest) fields).map (.inside (.key key))
    | some (.list items) => (stopsInItems (stops create (next :: rest)) 0 items).map (.inside (.key key))
    | some d => [⟨[.key key], d, true⟩]

/-- The error about a value that a walk cannot go through. -/
def mismatch (walked : FieldPath) (place : Position) (d : Document) : BuildError :=
  match place.getLast? with
  | some (.index i) => .typeMismatch ((walked ++ place.keys).dotted ++ "[" ++ toString i ++ "]") "map" d.kind
  | _ => .typeMismatch (walked ++ place.keys).dotted "map or slice" d.kind

/-- Puts what an edit gives at one stop after the other. A refused value is put back. -/
def follow (f : Edit σ) (walked path : FieldPath) : List Stop → Document → σ → Progress BuildError Document × σ
  | [], d, s => (.done d, s)
  | stop :: rest, d, s =>
    match stop.blocks with
    | true => (.stopped d (mismatch walked stop.place stop.value), s)
    | false =>
      match f stop.value s with
      | (.ok new, s) => follow f walked path rest (put new stop.place d) s
      | (.error e, s) => (.stopped (put stop.value stop.place d) (.atField (dotted (walked ++ path)) e), s)

/-! ## The edit as a loop -/

section Loop

variable {f : Edit σ} {walked path : FieldPath} {key : String} {object : Fields} {create : Bool} {s : σ}

theorem follow_append (first second : List Stop) (d : Document) (s : σ) :
    follow f walked path (first ++ second) d s = match follow f walked path first d s with
      | (⟨d, none⟩, s) => follow f walked path second d s
      | (⟨d, some e⟩, s) => (.stopped d e, s) := by
  induction first generalizing d s with
  | nil => rfl
  | cons stop rest ih =>
    rw [List.cons_append, follow, follow]
    split
    · rfl
    · split
      · exact ih _ _
      · rfl

theorem mismatch_key (walked : FieldPath) (name : String) (place : Position) (d : Document) :
    mismatch walked (.key name :: place) d = mismatch (walked ++ [name]) place d := by
  cases place with
  | nil => simp [mismatch]
  | cons step place => simp [mismatch, List.getLast?_cons_cons]

theorem mismatch_index (walked : FieldPath) (i : Nat) {place : Position} (inside : place ≠ []) (d : Document) :
    mismatch walked (.index i :: place) d = mismatch walked place d := by
  cases place with
  | nil => contradiction
  | cons step place => simp [mismatch, List.getLast?_cons_cons]

/-- What follows stops in a part of a document follows them in the document. -/
theorem follow_inside (f : Edit σ) (wrap : Document → Document) (step : Position.Step) {walked' path' : FieldPath}
    {stops : List Stop} (wraps : ∀ new q d, put new (step :: q) (wrap d) = wrap (put new q d))
    (whole : walked ++ path = walked' ++ path')
    (text : ∀ stop ∈ stops, mismatch walked (step :: stop.place) stop.value = mismatch walked' stop.place stop.value)
    (d : Document) (s : σ) : follow f walked path (stops.map (.inside step)) (wrap d) s =
      ((follow f walked' path' stops d s).1.map wrap, (follow f walked' path' stops d s).2) := by
  induction stops generalizing d s with
  | nil => rfl
  | cons stop rest ih =>
    have later := ih fun stop member => text stop (List.mem_cons_of_mem _ member)
    rw [List.map_cons, follow, follow]
    have blocked : (stop.inside step).blocks = stop.blocks := rfl
    rw [blocked]
    cases stop.blocks with
    | true =>
      simp only [Stop.inside, text stop List.mem_cons_self]
      rfl
    | false =>
      simp only [Stop.inside, wraps]
      rcases f stop.value s with ⟨e | new, s'⟩
      · simp only [whole]
        rfl
      · exact later _ _

theorem modify_between (before after : List Document) (d : Document) (f : Document → Document) :
    (before ++ d :: after).modify before.length f = before ++ f d :: after := by
  induction before with
  | nil => rfl
  | cons first before ih => rw [List.cons_append, List.length_cons, List.modify_succ_cons, ih, List.cons_append]

theorem place_ne_nil {stop : Stop} (member : stop ∈ stops create path object) : stop.place ≠ [] := by
  match path with
  | [] => simp [stops] at member
  | [key] =>
    rw [stops] at member
    split at member
    · contradiction
    · rw [List.mem_singleton.mp member]
      simp
  | key :: next :: rest =>
    rw [stops] at member
    split at member
    · contradiction
    · obtain ⟨inner, -, rfl⟩ := List.mem_map.mp member
      simp [Stop.inside]
    · obtain ⟨inner, -, rfl⟩ := List.mem_map.mp member
      simp [Stop.inside]
    · rw [List.mem_singleton.mp member]
      simp

theorem editItems_eq_follow (walked : FieldPath) {inside : Fields → σ → Progress BuildError Fields × σ} {items : List Document}
    (same : ∀ fields s, (Document.map fields).Sorted → follow f walked path (stops create path fields) (.map fields) s =
      ((inside fields s).1.map .map, (inside fields s).2))
    (sorted : ∀ d ∈ items, d.Sorted) (before : List Document) (s : σ) :
    follow f walked path (stopsInItems (stops create path) before.length items) (.list (before ++ items)) s =
      ((editItems inside walked before.length items s).1.map fun items => .list (before ++ items),
        (editItems inside walked before.length items s).2) := by
  induction items generalizing before s with
  | nil => rfl
  | cons d rest ih =>
    have later := ih fun d member => sorted d (List.mem_cons_of_mem _ member)
    cases d with
    | map fields =>
      have text : ∀ stop ∈ stops create path fields,
          mismatch walked (.index before.length :: stop.place) stop.value = mismatch walked stop.place stop.value :=
        fun stop member => mismatch_index walked _ (place_ne_nil member) stop.value
      have here := follow_inside f (fun d => .list (before ++ d :: rest)) (.index before.length)
        (fun new q d => congrArg Document.list (modify_between before rest d (put new q))) (Eq.refl (walked ++ path))
        text (.map fields) s
      rw [same fields s (sorted _ List.mem_cons_self)] at here
      rw [stopsInItems, follow_append, here, editItems]
      rcases inside fields s with ⟨⟨fields', e?⟩, s'⟩
      cases e? with
      | some e => rfl
      | none =>
        have onwards := later (before ++ [.map fields']) s'
        rw [List.length_append, List.length_singleton, List.append_assoc, List.singleton_append] at onwards
        dsimp only [Progress.map]
        rw [onwards]
        simp [Progress.map]
    | _ =>
      rw [stopsInItems, follow, editItems]
      · simp [mismatch, Progress.map, Progress.stopped]
      · simp
      · simp

/-- Below a field nothing but the field changes. -/
theorem follow_field (f : Edit σ) (walked : FieldPath) (key : String) (path : FieldPath) (object : Fields)
    (stops : List Stop) (d : Document) (s : σ) :
    follow f walked (key :: path) (stops.map (.inside (.key key))) (.map (Ordered.insert key d object)) s =
      ((follow f (walked ++ [key]) path stops d s).1.map fun d => .map (Ordered.insert key d object),
        (follow f (walked ++ [key]) path stops d s).2) := by
  refine follow_inside f (fun d => .map (Ordered.insert key d object)) (.key key) (fun new q d => ?_) (by simp)
    (fun stop _ => mismatch_key walked key stop.place stop.value) d s
  rw [put, Ordered.find?_insert_self, Option.getD_some, Ordered.insert_insert]

/-- The only stop of a walk through created maps is its end. -/
theorem stops_created (key : String) (path : FieldPath) :
    stops true (key :: path) [] = [⟨(key :: path).map .key, .map [], false⟩] := by
  induction path generalizing key with
  | nil => rfl
  | cons next rest ih =>
    rw [stops]
    simp only [slot?, Ordered.find?, Option.none_or, if_true, ih]
    rfl

/-- It makes no difference to the first value that is put whether its field is created before. -/
theorem follow_created {stop : Stop} (absent : Ordered.find? key object = none) (passes : stop.blocks = false)
    (s : σ) : follow f walked path [stop.inside (.key key)] (.map object) s =
      follow f walked path [stop.inside (.key key)] (.map (Ordered.insert key (.map []) object)) s := by
  have same (new : Document) : put new (.key key :: stop.place) (.map object) =
      put new (.key key :: stop.place) (.map (Ordered.insert key (.map []) object)) := by
    rw [put, put, absent, Ordered.find?_insert_self, Ordered.insert_insert]
    rfl
  simp only [follow, Stop.inside, passes, same]

/-- An edit at a path goes from stop to stop. -/
theorem editFrom_eq_follow (sorted : (Document.map object).Sorted) (s : σ) :
    follow f walked path (stops create path object) (.map object) s =
      ((editFrom create f walked path object s).1.map .map, (editFrom create f walked path object s).2) := by
  -- What stands under the first key is put back as it was, or it is created for the stop below it.
  induction path generalizing walked object s with
  | nil => rfl
  | cons key path ih =>
    cases path with
    | nil =>
      rw [stops, editFrom]
      cases slot : slot? create key object with
      | none => rfl
      | some d =>
        simp only [follow, put]
        rcases f d s with ⟨e | new, s'⟩ <;> simp [Progress.map, Progress.done, Progress.stopped]
    | cons next rest =>
      rw [stops, editFrom]
      cases slot : slot? create key object with
      | none => rfl
      | some d =>
        rcases slot?_cases slot with stored | ⟨absent, created, rfl⟩
        · have back : object = Ordered.insert key d object :=
            (Ordered.insert_of_find? (Document.sorted_map_iff.mp sorted).1 stored).symm
          have below : d.Sorted := sorted.field stored
          cases d with
          | map fields =>
            have inner := follow_field f walked key (next :: rest) object (stops create (next :: rest) fields) (.map fields) s
            rw [← back, ih below] at inner
            exact inner
          | list items =>
            have inner := follow_field f walked key (next :: rest) object
              (stopsInItems (stops create (next :: rest)) 0 items) (.list items) s
            have each := editItems_eq_follow (walked ++ [key]) (fun fields s below => ih below s)
              (Document.sorted_list_iff.mp below) [] s
            rw [← back] at inner
            simp only [List.length_nil, List.nil_append] at each
            rw [each] at inner
            exact inner
          | _ =>
            simp only [follow, mismatch_key]
            rw [← back]
            simp [mismatch, Progress.map, Progress.stopped]
        · subst created
          have inner := follow_field f walked key (next :: rest) object (stops true (next :: rest) []) (.map []) s
          rw [ih sorted_empty] at inner
          refine Eq.trans ?_ inner
          simp only [stops_created, List.map_cons, List.map_nil]
          exact follow_created absent rfl s

end Loop

end FieldPath

end KubeOverlay
