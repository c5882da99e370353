import KubeOverlay.Proofs.Position
import Mathlib.Data.List.Forall2
/-!
# What an edit at a path changes

An edit at a path leaves every position alone that is apart from the path, whatever the edit does
there and wherever an error stops it (`editFrom_frame`). Where it ends without an error, whatever
stood at a position with the keys of the path has been edited (`editFrom_leaf`).
-/
namespace KubeOverlay.FieldPath

open Document

variable {σ : Type}

/-- A slot is the stored value, or a created empty map where nothing is stored. -/
theorem slot?_cases {create : Bool} {key : String} {object : Fields} {d : Document}
    (slot : slot? create key object = some d) :
    Ordered.find? key object = some d ∨
      Ordered.find? key object = none ∧ create = true ∧ d = .map [] := by
  rw [slot?] at slot
  cases stored : Ordered.find? key object with
  | some held => exact .inl (by simpa [stored] using slot)
  | none =>
    cases create with
    | true => exact .inr ⟨rfl, rfl, by simpa [stored] using slot.symm⟩
    | false => simp [stored] at slot

/-- A slot that is put back has changed nothing below it but for the map that was created. -/
theorem at?_insert_slot {create : Bool} {key : String} {object : Fields} {d : Document}
    (slot : slot? create key object = some d) {q : Position} (inside : q ≠ []) :
    d.at? q = (Document.map object).at? (.key key :: q) := by
  rcases slot?_cases slot with stored | ⟨absent, -, rfl⟩
  · rw [at?_key_map, stored, Option.bind_some]
  · rw [at?_key_map, absent, Option.bind_none]
    match q with
    | [] => exact absurd rfl inside
    | .key _ :: _ => rfl
    | .index _ :: _ => rfl

/-! ## Away from the path -/

/-- What the edit of each element leaves alone, the edit of all elements leaves alone. -/
theorem editItems_frame {inside : Fields → σ → Progress BuildError Fields × σ} {q : Position}
    (kept : ∀ fields s, (Document.map (inside fields s).1.reached).at? q = (Document.map fields).at? q)
    (walked : FieldPath) (items : List Document) (i index : Nat) (s : σ) :
    (editItems inside walked index items s).1.reached[i]?.bind (at? q) = items[i]?.bind (at? q) := by
  induction items generalizing i index s with
  | nil => rfl
  | cons d rest ih =>
    cases d with
    | map fields =>
      have here := kept fields s
      rw [editItems]
      split
      · next reached e s' ran =>
        rw [ran] at here
        cases i with
        | zero => exact here
        | succ i => rfl
      · next reached s' ran =>
        rw [ran] at here
        cases i with
        | zero => exact here
        | succ i => exact ih i (index + 1) s'
    | _ => rfl

/-- Only the slot of the first key changes. -/
theorem editFrom_reached (create : Bool) (f : Edit σ) (walked : FieldPath) (key : String)
    (path : FieldPath) (object : Fields) (s : σ) :
    (editFrom create f walked (key :: path) object s).1.reached = object ∨
      ∃ d, (editFrom create f walked (key :: path) object s).1.reached = Ordered.insert key d object := by
  cases path with
  | nil =>
    rw [editFrom]
    split
    · exact .inl rfl
    · split
      · exact .inr ⟨_, rfl⟩
      · exact .inr ⟨_, rfl⟩
  | cons next rest =>
    rw [editFrom]
    dsimp only
    split
    · exact .inl rfl
    · exact .inr ⟨_, rfl⟩
    · exact .inr ⟨_, rfl⟩
    · exact .inr ⟨_, rfl⟩

/-- A position that is apart from the path holds what it held, also after an error. -/
theorem editFrom_frame (create : Bool) (f : Edit σ) (path : FieldPath) (q : Position)
    (apart : Apart path q.keys) (walked : FieldPath) (object : Fields) (s : σ) :
    (Document.map (editFrom create f walked path object s).1.reached).at? q =
      (Document.map object).at? q := by
  induction path generalizing q walked object s with
  | nil => exact absurd apart (not_apart_nil_left _)
  | cons key path ih =>
    match q with
    | [] => exact absurd apart (not_apart_nil_right _)
    | .index i :: q => rfl
    | .key other :: q =>
      by_cases same : other = key
      · subst same
        have deeper : Apart path (Position.keys q) := (apart_cons_self ..).mp apart
        have inside : q ≠ [] := by rintro rfl; exact not_apart_nil_right _ deeper
        match path with
        | [] => exact absurd deeper (not_apart_nil_left _)
        | next :: rest =>
          rw [editFrom]
          dsimp only
          split
          · rfl
          · next fields slot =>
            rw [← at?_insert_slot slot inside]
            exact (at?_insert_self ..).trans (ih q deeper _ fields s)
          · next items slot =>
            rw [← at?_insert_slot slot inside]
            refine (at?_insert_self ..).trans ?_
            match q with
            | [] => exact absurd rfl inside
            | .key _ :: _ => rfl
            | .index i :: q =>
              exact editItems_frame (fun fields s => ih q deeper _ fields s) _ items i 0 s
          · next slot =>
            rw [← at?_insert_slot slot inside]
            exact at?_insert_self ..
      · rcases editFrom_reached create f walked key path object s with unchanged | ⟨d, changed⟩
        · rw [unchanged]
        · rw [changed]
          exact at?_insert_of_ne q d object same

/-! ## At the end of the path -/

/-- On the way to a position an edit replaced a value, with nothing but indices left to go. -/
def Edited (f : Edit σ) (q : Position) (d d' : Document) : Prop :=
  ∃ leaf inner before after s s', q = leaf ++ inner ∧ Position.keys inner = [] ∧
    d.at? leaf = some before ∧ f before s = (.ok after, s') ∧ d'.at? leaf = some after

/-- What is edited inside a part of a document is edited inside the document. -/
theorem Edited.outside {f : Edit σ} {step : Position.Step} {q : Position} {d d' below below' : Document}
    (edited : Edited f q below below') (old : ∀ p, d.at? (step :: p) = below.at? p)
    (new : ∀ p, d'.at? (step :: p) = below'.at? p) : Edited f (step :: q) d d' := by
  obtain ⟨leaf, inner, before, after, s, s', split, rest, found, ran, stored⟩ := edited
  exact ⟨step :: leaf, inner, before, after, s, s', by rw [split, List.cons_append], rest,
    by rw [old, found], ran, by rw [new, stored]⟩

/-- Related lists have related elements at the same index. -/
theorem getElem?_of_forall₂ {α β : Type} {R : α → β → Prop} {l : List α} {l' : List β}
    (related : List.Forall₂ R l l') {i : Nat} {a : α} (found : l[i]? = some a) :
    ∃ b, l'[i]? = some b ∧ R a b := by
  obtain ⟨below, rfl⟩ := List.getElem?_eq_some_iff.mp found
  have below' : i < l'.length := related.length_eq ▸ below
  exact ⟨l'[i], List.getElem?_eq_getElem below', related.get below below'⟩

/-- Where no element stopped the edit, each was a map and has been edited. -/
theorem editItems_done {inside : Fields → σ → Progress BuildError Fields × σ} {walked : FieldPath}
    {items : List Document} {index : Nat} {s : σ}
    (ran : (editItems inside walked index items s).1.error? = none) :
    List.Forall₂ (fun d d' => ∃ fields s', d = .map fields ∧ (inside fields s').1.error? = none ∧
      d' = .map (inside fields s').1.reached) items (editItems inside walked index items s).1.reached := by
  induction items generalizing index s with
  | nil => exact .nil
  | cons first rest ih =>
    cases first with
    | map fields =>
      rw [editItems] at ran ⊢
      split at ran
      · next reached e s' stopped => simp [Progress.stopped] at ran
      · next reached s' done =>
        exact .cons ⟨fields, s, rfl, by rw [done], by rw [done]⟩ (ih ran)
    | _ => simp [editItems, Progress.stopped] at ran

/-- What stood at a position with the keys of the path has been edited, if nothing stopped the
edit. -/
theorem editFrom_leaf {create : Bool} {f : Edit σ} {key : String} {path : FieldPath} {q : Position}
    (along : q.keys = key :: path) {walked : FieldPath} {object : Fields} {s : σ}
    (ran : (editFrom create f walked (key :: path) object s).1.error? = none) {d : Document}
    (found : (Document.map object).at? q = some d) :
    Edited f q (.map object) (.map (editFrom create f walked (key :: path) object s).1.reached) := by
  induction path generalizing key q walked object s with
  | nil =>
    match q with
    | .key other :: q =>
      obtain ⟨rfl, rest⟩ := List.cons_eq_cons.mp along
      obtain ⟨_, before, ⟨⟩, stored, -⟩ := at?_key_eq_some found
      have slot : slot? create other object = some before := by simp [slot?, stored]
      rw [editFrom, slot] at ran ⊢
      dsimp only at ran ⊢
      split at ran
      · next after s' edit =>
        refine ⟨[.key other], q, before, after, s, s', rfl, rest, ?_, edit, ?_⟩
        · simp [stored]
        · exact (at?_insert_self other [] after object).trans (at?_nil after)
      · next e s' edit => simp [Progress.stopped] at ran
  | cons next path ih =>
    match q with
    | .key other :: q =>
      obtain ⟨rfl, rest⟩ := List.cons_eq_cons.mp along
      obtain ⟨_, below, ⟨⟩, stored, deeper⟩ := at?_key_eq_some found
      have slot : slot? create other object = some below := by simp [slot?, stored]
      have old : ∀ p, (Document.map object).at? (.key other :: p) = below.at? p := by simp [stored]
      rw [editFrom, slot] at ran ⊢
      dsimp only at ran ⊢
      cases below with
      | map fields =>
        exact (ih rest ran deeper).outside old (at?_insert_self other · _ object)
      | list items =>
        match q with
        | [] => simp at rest
        | .index i :: q =>
          obtain ⟨d', stored', deeper'⟩ := Option.bind_eq_some_iff.mp deeper
          obtain ⟨d'', reached, fields, s', rfl, done, rfl⟩ :=
            getElem?_of_forall₂ (editItems_done ran) stored'
          have inner : Position.keys q = next :: path := rest
          refine Edited.outside ?_ old (at?_insert_self other · _ object)
          refine (ih inner done deeper').outside ?_ ?_
          · simp [stored']
          · intro p
            exact (congrArg (Option.bind · (at? p)) reached).trans (Option.bind_some ..)
      | _ => simp [Progress.stopped] at ran

end KubeOverlay.FieldPath
