import KubeOverlay.Ordered
import KubeOverlay.Double
/-!
# Documents

A decoded document: null, booleans, numbers, strings, lists and maps. The fields of a map are
entries in key order, so a document has one form. Integers and floating-point numbers are different
numbers, whatever their size.
-/
namespace KubeOverlay

/-- A number of a document. -/
inductive Number where
  /-- An integer from -2^63 to 2^64 - 1. -/
  | int (n : Int)
  | float (x : Double)
deriving DecidableEq, Repr

namespace Number

/-- The nearest double. -/
def toDouble : Number → Double
  | .int n => .ofInt n
  | .float x => x

/-- Integers are equal to the same integer, floating-point numbers by numerical equality. -/
def equal : Number → Number → Bool
  | .int m, .int n => m == n
  | .float x, .float y => x.equal y
  | _, _ => false

/-- Whether an integer is a number of documents. -/
def isInteger (n : Int) : Bool := -Int.pow 2 63 ≤ n && n < Int.pow 2 64

end Number

/-- The shapes of documents. -/
inductive Kind where
  | map | slice | string | number | bool | null
deriving DecidableEq, Repr

/-- The word for a shape in messages. -/
def Kind.name : Kind → String
  | .map => "map"
  | .slice => "slice"
  | .string => "string"
  | .number => "number"
  | .bool => "bool"
  | .null => "null"

/-- A decoded document. -/
inductive Document where
  | null
  | bool (b : Bool)
  | number (n : Number)
  | string (s : String)
  | list (items : List Document)
  | map (fields : List (String × Document))
deriving Repr

/-- The fields of a map, in key order. -/
abbrev Fields := List (String × Document)

namespace Document

instance : Inhabited Document := ⟨.null⟩

def kind : Document → Kind
  | .null => .null
  | .bool _ => .bool
  | .number _ => .number
  | .string _ => .string
  | .list _ => .slice
  | .map _ => .map

/-! ## Views -/

def fields? : Document → Option Fields
  | .map fields => some fields
  | _ => none

def items? : Document → Option (List Document)
  | .list items => some items
  | _ => none

def string? : Document → Option String
  | .string s => some s
  | _ => none

def number? : Document → Option Number
  | .number n => some n
  | _ => none

def bool? : Document → Option Bool
  | .bool b => some b
  | _ => none

/-- The field of a map; other documents have none. -/
def field? (key : String) : Document → Option Document
  | .map fields => Ordered.find? key fields
  | _ => none

/-- The string in a field of a map. -/
def stringField? (key : String) (d : Document) : Option String :=
  (d.field? key).bind string?

/-- The map of fields in any order; of fields with one name the last one stays. -/
def ofFields (fields : List (String × Document)) : Document :=
  .map (Ordered.ofList fields)

/-- What holds of a list and a map whenever it holds of everything in them holds of all documents. -/
@[elab_as_elim]
theorem inductionOn {motive : Document → Prop} (d : Document)
    (list : ∀ items, (∀ d ∈ items, motive d) → motive (.list items))
    (map : ∀ fields : Fields, (∀ e ∈ fields, motive e.2) → motive (.map fields))
    (simple : ∀ d : Document, d.fields? = none → d.items? = none → motive d) : motive d := by
  match d with
  | .list items => exact list items fun d _ => inductionOn d list map simple
  | .map fields =>
    refine map fields fun e member => ?_
    obtain ⟨key, d⟩ := e
    have smaller : sizeOf d < 1 + sizeOf fields := by
      have entry := List.sizeOf_lt_of_mem member
      rw [Prod.mk.sizeOf_spec] at entry
      omega
    exact inductionOn d list map simple
  | .null => exact simple .null rfl rfl
  | .bool b => exact simple (.bool b) rfl rfl
  | .number n => exact simple (.number n) rfl rfl
  | .string s => exact simple (.string s) rfl rfl

/-! ## Equality -/

mutual
/-- Equality of documents, numbers being compared as numbers. -/
def equal : Document → Document → Bool
  | .null, .null => true
  | .bool a, .bool b => a == b
  | .number a, .number b => a.equal b
  | .string a, .string b => a == b
  | .list a, .list b => equalItems a b
  | .map a, .map b => equalFields a b
  | _, _ => false

/-- Lists are equal element by element. -/
def equalItems : List Document → List Document → Bool
  | [], [] => true
  | a :: as, b :: bs => equal a b && equalItems as bs
  | _, _ => false

/-- Maps are equal field by field. -/
def equalFields : List (String × Document) → List (String × Document) → Bool
  | [], [] => true
  | (k, a) :: as, (l, b) :: bs => k == l && equal a b && equalFields as bs
  | _, _ => false
end

mutual
/-- Whether two documents are one and the same. -/
def same : Document → Document → Bool
  | .null, .null => true
  | .bool a, .bool b => a == b
  | .number a, .number b => a == b
  | .string a, .string b => a == b
  | .list a, .list b => sameItems a b
  | .map a, .map b => sameFields a b
  | _, _ => false

/-- Whether two lists have the same elements. -/
def sameItems : List Document → List Document → Bool
  | [], [] => true
  | a :: as, b :: bs => same a b && sameItems as bs
  | _, _ => false

/-- Whether two maps have the same fields. -/
def sameFields : List (String × Document) → List (String × Document) → Bool
  | [], [] => true
  | (k, a) :: as, (l, b) :: bs => k == l && same a b && sameFields as bs
  | _, _ => false
end

mutual
theorem same_iff (a b : Document) : same a b = true ↔ a = b := by
  cases a with
  | list a => cases b <;> simp [same, sameItems_iff]
  | map a => cases b <;> simp [same, sameFields_iff]
  | _ => cases b <;> simp [same]

theorem sameItems_iff (as bs : List Document) : sameItems as bs = true ↔ as = bs := by
  cases as with
  | nil => cases bs <;> simp [sameItems]
  | cons a as => cases bs <;> simp [sameItems, same_iff, sameItems_iff]

theorem sameFields_iff (as bs : List (String × Document)) : sameFields as bs = true ↔ as = bs := by
  cases as with
  | nil => cases bs <;> simp [sameFields]
  | cons a as => cases bs <;> simp [sameFields, same_iff, sameFields_iff, Prod.ext_iff]
end

instance : DecidableEq Document := fun a b => decidable_of_iff (same a b = true) (same_iff a b)

/-! ## Key order -/

mutual
/-- Every map in the document, at any depth, has its keys in ascending order. -/
def Sorted : Document → Prop
  | .list items => SortedItems items
  | .map fields => Ordered.Ascending fields ∧ SortedFields fields
  | _ => True

/-- Every element is sorted. -/
def SortedItems : List Document → Prop
  | [] => True
  | d :: rest => Sorted d ∧ SortedItems rest

/-- Every field holds a sorted document. -/
def SortedFields : List (String × Document) → Prop
  | [] => True
  | (_, d) :: rest => Sorted d ∧ SortedFields rest
end

end Document

end KubeOverlay
