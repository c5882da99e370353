/-!
# Trees of patterns

What a pattern is written as: characters, classes, assertions, groups and repetitions, and flags
that change the meaning of what follows them. How deep a tree is nested counts its brackets, groups,
repetitions, alternations and sequences.
-/
namespace KubeOverlay.Pattern

/-- The classes with a letter of their own. -/
inductive LetterClass where
  | digit | blank | word
deriving DecidableEq, Repr

/-- What a property class asks for. -/
inductive PropertyQuery where
  | name (name : List Char)
  | value (property value : List Char) (negated : Bool)
deriving Repr

/-- What two classes are combined to. -/
inductive ClassOperator where
  | intersection | difference | symmetricDifference
deriving DecidableEq, Repr

/-- A class in brackets, or a part of one. -/
inductive ClassTree where
  | char (c : Char)
  | range (first last : Char)
  /-- A class such as `[:alpha:]`. -/
  | named (negated : Bool) (name : String)
  | letter (negated : Bool) (letter : LetterClass)
  | property (negated : Bool) (query : PropertyQuery)
  | bracketed (negated : Bool) (content : ClassTree)
  | union (parts : List ClassTree)
  | operation (operator : ClassOperator) (left right : ClassTree)
deriving Repr

/-- A condition on a place in a text. -/
inductive Anchor where
  | lineStart | lineEnd | textStart | textEnd
  | wordBoundary | notWordBoundary
  | wordStart | wordEnd | wordStartHalf | wordEndHalf
deriving DecidableEq, Repr

/-- A flag by its letter, turned on or off. -/
abbrev FlagChange := Char × Bool

inductive Tree where
  /-- A character; one below 256 may be written as an octet. -/
  | char (c : Char) (octet : Bool)
  | anyChar
  | anchor (a : Anchor)
  | letter (negated : Bool) (letter : LetterClass)
  | property (negated : Bool) (query : PropertyQuery)
  | bracketed (negated : Bool) (content : ClassTree)
  /-- At least and, unless there is no bound, at most so often. -/
  | repetition (least : Nat) (most : Option Nat) (t : Tree)
  | flags (changes : List FlagChange)
  /-- A group with flags of its own. -/
  | group (changes : List FlagChange) (t : Tree)
  | sequence (parts : List Tree)
  | alternation (branches : List Tree)
deriving Repr

namespace ClassTree

/-- Parts of a class together. -/
def ofParts : List ClassTree → ClassTree
  | [part] => part
  | parts => .union parts

mutual
/-- How deep a class is nested. -/
def depth : ClassTree → Nat
  | .bracketed _ content => depth content + 1
  | .union [] => 0
  | .union parts => depthOfParts parts + 1
  | .operation _ left right => max (depth left) (depth right) + 1
  | _ => 0

/-- How deep the parts of a class are nested. -/
def depthOfParts : List ClassTree → Nat
  | [] => 0
  | part :: rest => max (depth part) (depthOfParts rest)
end

end ClassTree

namespace Tree

/-- Parts one after the other. -/
def ofParts : List Tree → Tree
  | [part] => part
  | parts => .sequence parts

/-- A choice of branches. -/
def ofBranches : List Tree → Tree
  | [branch] => branch
  | branches => .alternation branches

mutual
/-- How deep a tree is nested. -/
def depth : Tree → Nat
  | .bracketed _ content => content.depth + 1
  | .repetition _ _ t => depth t + 1
  | .group _ t => depth t + 1
  | .sequence [] => 0
  | .sequence parts => depthOfParts parts + 1
  | .alternation branches => depthOfParts branches + 1
  | _ => 0

/-- How deep the parts of a tree are nested. -/
def depthOfParts : List Tree → Nat
  | [] => 0
  | part :: rest => max (depth part) (depthOfParts rest)
end

end Tree

end KubeOverlay.Pattern
