import KubeOverlay.Document
import KubeOverlay.Pattern
/-!
# Predicates

Tests of values of a domain, and how they combine. Numbers are tested as doubles, in the order in
which equal numbers compare as equal and all others by their place among the bit patterns, so each
of the five comparisons is decided for a NaN too.
-/
namespace KubeOverlay

/-- A test of the values of a domain. -/
abbrev Predicate (α : Type) := α → Bool

namespace Predicate

variable {α : Type}

def negate (p : Predicate α) : Predicate α := fun a => !p a

/-- All of the tests; none is always passed. -/
def all (ps : List (Predicate α)) : Predicate α := fun a => ps.all (· a)

/-- Any of the tests; none is never passed. -/
def any (ps : List (Predicate α)) : Predicate α := fun a => ps.any (· a)

end Predicate

/-! ## Numbers -/

namespace Double

def isEqual (bound : Double) : Predicate Double := fun x => x.order bound == .eq

def isGreater (bound : Double) : Predicate Double := fun x => x.order bound == .gt

/-- Neither equal nor greater. -/
def isLess (bound : Double) : Predicate Double :=
  .all [.negate (isEqual bound), .negate (isGreater bound)]

def isAtLeast (bound : Double) : Predicate Double := .any [isEqual bound, isGreater bound]

def isAtMost (bound : Double) : Predicate Double := .any [isEqual bound, isLess bound]

end Double

/-- A test of a count. -/
def Predicate.ofCount (p : Predicate Double) : Predicate Nat := fun n => p (.ofInt n)

/-! ## Strings -/

/-- The strings that begin with a text. -/
def Predicate.beginsWith (text : String) : Predicate String := fun s =>
  text.toList.isPrefixOf s.toList

/-- The strings that end with a text. -/
def Predicate.endsWith (text : String) : Predicate String := fun s =>
  text.toList.isSuffixOf s.toList

/-- A test of the number of characters. -/
def Predicate.length (p : Predicate Double) : Predicate String := fun s => p.ofCount s.length

end KubeOverlay
