import KubeOverlay.FieldPath
/-!
# Positions in documents

A position leads to one place of a document: to the field of a map, to the element of a list, and so
on inwards. A field path knows only its keys (`Position.keys`), so it leads to as many positions as
the lists on its way have elements. Two paths are apart (`FieldPath.Apart`) if neither begins the
other; then no place that one of them leads to contains a place of the other.
-/
namespace KubeOverlay

/-- A step into a document. -/
inductive Position.Step where
  | key (name : String)
  | index (i : Nat)
deriving DecidableEq, Repr

/-- The steps to a place in a document, the outermost first. -/
abbrev Position := List Position.Step

namespace Position

/-- The keys on the way to a place. The indices in lists are left out. -/
def keys : Position → FieldPath
  | [] => []
  | .key name :: q => name :: keys q
  | .index _ :: q => keys q

@[simp] theorem keys_nil : keys [] = [] := rfl
@[simp] theorem keys_key (name : String) (q : Position) : keys (.key name :: q) = name :: keys q := rfl
@[simp] theorem keys_index (i : Nat) (q : Position) : keys (.index i :: q) = keys q := rfl

theorem keys_map_key (path : FieldPath) : keys (path.map .key) = path := by
  induction path with
  | nil => rfl
  | cons key rest ih => rw [List.map_cons, keys_key, ih]

end Position

/-- What stands at a position. -/
def Document.at? : Position → Document → Option Document
  | [], d => some d
  | .key name :: q, .map fields => (Ordered.find? name fields).bind (at? q)
  | .index i :: q, .list items => items[i]?.bind (at? q)
  | _ :: _, _ => none

namespace Document

@[simp] theorem at?_nil (d : Document) : d.at? [] = some d := by cases d <;> rfl
@[simp] theorem at?_key_map (name : String) (q : Position) (fields : Fields) :
    (Document.map fields).at? (.key name :: q) = (Ordered.find? name fields).bind (at? q) := rfl
@[simp] theorem at?_index_list (i : Nat) (q : Position) (items : List Document) :
    (Document.list items).at? (.index i :: q) = items[i]?.bind (at? q) := rfl

theorem field?_eq_at? (name : String) (d : Document) : d.field? name = d.at? [.key name] := by
  cases d with
  | map fields =>
    rw [field?, at?_key_map]
    cases Ordered.find? name fields <;> rfl
  | _ => rfl

/-- Only maps have fields. -/
theorem at?_key_eq_some {name : String} {q : Position} {d found : Document}
    (at_d : d.at? (.key name :: q) = some found) :
    ∃ fields below, d = .map fields ∧ Ordered.find? name fields = some below ∧ below.at? q = some found := by
  cases d with
  | map fields =>
    obtain ⟨below, stored, deeper⟩ := Option.bind_eq_some_iff.mp at_d
    exact ⟨fields, below, rfl, stored, deeper⟩
  | _ => contradiction

theorem at?_append (q inner : Position) (d : Document) :
    d.at? (q ++ inner) = (d.at? q).bind (at? inner) := by
  induction q generalizing d with
  | nil => simp
  | cons step q ih =>
    cases step with
    | key name =>
      cases d with
      | map fields =>
        cases found : Ordered.find? name fields with
        | none => simp [found]
        | some below => simp [found, ih]
      | _ => rfl
    | index i =>
      cases d with
      | list items =>
        cases found : items[i]? with
        | none => simp [found]
        | some below => simp [found, ih]
      | _ => rfl

theorem at?_insert_self (name : String) (q : Position) (d : Document) (fields : Fields) :
    (Document.map (Ordered.insert name d fields)).at? (.key name :: q) = d.at? q := by
  simp [Ordered.find?_insert_self]

theorem at?_insert_of_ne {name other : String} (q : Position) (d : Document) (fields : Fields)
    (differ : other ≠ name) :
    (Document.map (Ordered.insert name d fields)).at? (.key other :: q) =
      (Document.map fields).at? (.key other :: q) := by
  simp [Ordered.find?_insert_of_ne name other d fields differ]

end Document

namespace FieldPath

/-- Neither path begins the other. -/
def Apart (a b : FieldPath) : Prop := ¬ a <+: b ∧ ¬ b <+: a

instance (a b : FieldPath) : Decidable (Apart a b) := inferInstanceAs (Decidable (_ ∧ _))

theorem Apart.symm {a b : FieldPath} (apart : Apart a b) : Apart b a := ⟨apart.2, apart.1⟩

theorem not_apart_nil_left (a : FieldPath) : ¬ Apart [] a := fun apart => apart.1 List.nil_prefix
theorem not_apart_nil_right (a : FieldPath) : ¬ Apart a [] := fun apart => apart.2 List.nil_prefix

theorem Apart.ne_nil {a b : FieldPath} (apart : Apart a b) : a ≠ [] := by
  rintro rfl
  exact not_apart_nil_left _ apart

theorem apart_cons_self (key : String) (a b : FieldPath) : Apart (key :: a) (key :: b) ↔ Apart a b := by
  simp [Apart, List.cons_prefix_cons]

end FieldPath

end KubeOverlay
