import KubeOverlay.Pattern.Tree
import KubeOverlay.Pattern.Property
/-!
# What pattern trees mean

A tree means an expression over moves in a text: a step past a character of a set, or a stay at a
place of a certain kind. Flags hold from where they stand to the end of their group. Without the
flag `u` classes are of ASCII characters, and a class that holds octets beyond ASCII means nothing.
-/
namespace KubeOverlay.Pattern

/-- Regular expressions over moves. -/
inductive Expression (Move : Type) where
  | nothing
  | move (m : Move)
  | sequence (first second : Expression Move)
  | choice (first second : Expression Move)
  /-- At least and, unless there is no bound, at most so often. -/
  | repetition (least : Nat) (most : Option Nat) (e : Expression Move)

namespace Expression

/-- The same expression over other moves. -/
def map {Move Other : Type} (f : Move → Other) : Expression Move → Expression Other
  | .nothing => .nothing
  | .move m => .move (f m)
  | .sequence a b => .sequence (a.map f) (b.map f)
  | .choice a b => .choice (a.map f) (b.map f)
  | .repetition least most e => .repetition least most (e.map f)

/-- The room that an expression takes when its repetitions are written out, given that of its moves;
a choice takes `branch` besides. -/
def room {Move : Type} (branch : Nat) (ofMove : Move → Nat) : Expression Move → Nat
  | .nothing => 0
  | .move m => ofMove m
  | .sequence a b => a.room branch ofMove + b.room branch ofMove
  | .choice a b => a.room branch ofMove + b.room branch ofMove + branch
  | .repetition least most e =>
    let once := e.room branch ofMove
    match most with
    | none => max least 1 * once + branch
    | some most => least * once + (most - least) * (once + branch)

/-- Whether an expression has none of the moves with a property. -/
def lacks {Move : Type} (p : Move → Bool) : Expression Move → Bool
  | .nothing => true
  | .move m => !p m
  | .sequence a b => a.lacks p && b.lacks p
  | .choice a b => a.lacks p && b.lacks p
  | .repetition _ _ e => e.lacks p

end Expression

/-- What a place in a text is checked for, by the characters around it. -/
abbrev Condition := Option Char → Option Char → Bool

/-- A move in a text. -/
inductive Move where
  /-- Past a character of a set; the room is what the set takes in octets when it is laid out for
  UTF-8. -/
  | step (set : CharSet) (room : Nat)
  | stay (condition : Condition)

namespace Move

/-- The room that a state takes, in octets. -/
def stateRoom : Nat := 32

def room : Move → Nat
  | .step _ room => room
  | .stay _ => stateRoom

def isStep : Move → Bool
  | .step .. => true
  | .stay _ => false

end Move

/-- An expression so often. One without steps is tried once at most, as it leads nowhere. -/
def Expression.repeated (least : Nat) (most : Option Nat) (e : Expression Move) : Expression Move :=
  if most == some 0 then .nothing
  else if e.lacks Move.isStep then .repetition (min least 1) (some (min (most.getD 1) 1)) e
  else .repetition least most e

/-! ## Flags -/

structure Flags where
  ignoreCase : Bool := false
  multiLine : Bool := false
  dotAll : Bool := false
  unicode : Bool := true
  carriageReturn : Bool := false
deriving DecidableEq, Repr

namespace Flags

/-- The other flags make no difference to what matches. -/
def set (flags : Flags) : FlagChange → Flags
  | ('i', on) => { flags with ignoreCase := on }
  | ('m', on) => { flags with multiLine := on }
  | ('s', on) => { flags with dotAll := on }
  | ('u', on) => { flags with unicode := on }
  | ('R', on) => { flags with carriageReturn := on }
  | _ => flags

def change (flags : Flags) (changes : List FlagChange) : Flags := changes.foldl set flags

/-- The closure of a set under case folding, if case is ignored. -/
def fold (flags : Flags) (set : CharSet) : CharSet :=
  if flags.ignoreCase then
    if flags.unicode then foldedSet set else foldedAsciiSet set
  else set

end Flags

/-! ## Classes -/

def complement (negated : Bool) (set : CharSet) : CharSet := fun c => set c != negated

def isAscii (c : Char) : Bool := c.toNat < 128

/-- Whether a class holds no octet beyond ASCII. -/
def isAsciiClass (set : CharSet) : Bool :=
  (List.range 128).all fun n => !set (Char.ofNat (128 + n))

/-- A class that may stand by itself: without `u`, only one of ASCII characters. -/
def Flags.admit (flags : Flags) (set : CharSet) : Option CharSet :=
  if flags.unicode then some set
  else if isAsciiClass set then some fun c => isAscii c && set c
  else none

def letterSet (flags : Flags) : LetterClass → CharSet
  | .digit => if flags.unicode then isDecimalDigit else Char.isDigit
  | .blank =>
    if flags.unicode then isWhiteSpace else fun c => c == ' ' || ('\t' ≤ c && c ≤ '\x0d')
  | .word => if flags.unicode then isWordChar else fun c => c.isAlphanum || c == '_'

/-- The set of a class such as `[:alpha:]`. -/
def namedClassSet (name : String) : CharSet := fun c =>
  match name with
  | "alnum" => c.isAlphanum
  | "alpha" => c.isAlpha
  | "ascii" => isAscii c
  | "blank" => c == '\t' || c == ' '
  | "cntrl" => c < ' ' || c == '\x7f'
  | "digit" => c.isDigit
  | "graph" => '!' ≤ c && c ≤ '~'
  | "lower" => c.isLower
  | "print" => ' ' ≤ c && c ≤ '~'
  | "punct" => '!' ≤ c && c ≤ '~' && !c.isAlphanum
  | "space" => c == ' ' || ('\t' ≤ c && c ≤ '\x0d')
  | "upper" => c.isUpper
  | "word" => c.isAlphanum || c == '_'
  | "xdigit" => (Hexadecimal.value? c).isSome
  | _ => false

def letterClass? (flags : Flags) (negated : Bool) (letter : LetterClass) : Option CharSet :=
  flags.admit (complement negated (letterSet flags letter))

/-- There are no property classes without `u`. -/
def propertyClass? (flags : Flags) (negated : Bool) (query : PropertyQuery) : Option CharSet :=
  if flags.unicode then
    match query with
    | .name name => (namedSet? name).map fun set => complement negated (flags.fold set)
    | .value property value unequal =>
      (valuedSet? property value).map fun set => complement (negated != unequal) (flags.fold set)
  else none

def combine : ClassOperator → CharSet → CharSet → CharSet
  | .intersection, a, b => fun c => a c && b c
  | .difference, a, b => fun c => a c && !b c
  | .symmetricDifference, a, b => fun c => a c != b c

mutual
/-- The set of a class in brackets or of a part of one. -/
def ClassTree.set? (flags : Flags) : ClassTree → Option CharSet
  | .char c => if flags.unicode || isAscii c then some (· == c) else none
  | .range first last =>
    if flags.unicode || (isAscii first && isAscii last) then some fun c => first ≤ c && c ≤ last
    else none
  | .named negated name => some (complement negated (flags.fold (namedClassSet name)))
  | .letter negated kind => letterClass? flags negated kind
  | .property negated query => propertyClass? flags negated query
  | .bracketed negated content => do
    flags.admit (complement negated (flags.fold (← set? flags content)))
  | .union parts => unionOf? flags parts
  | .operation operator left right => do
    let a ← set? flags left
    let b ← set? flags right
    return combine operator (flags.fold a) (flags.fold b)

/-- The characters of any of several parts. -/
def ClassTree.unionOf? (flags : Flags) : List ClassTree → Option CharSet
  | [] => some fun _ => false
  | part :: rest => do
    let a ← set? flags part
    let b ← unionOf? flags rest
    return fun c => a c || b c
end

/-! ## Anchors -/

/-- Whether a line starts between two characters. -/
def startsLine (carriageReturn : Bool) : Condition := fun before after =>
  match before with
  | none => true
  | some '\n' => true
  | some '\r' => carriageReturn && after != some '\n'
  | some _ => false

/-- Whether a line ends between two characters. -/
def endsLine (carriageReturn : Bool) : Condition := fun before after =>
  match after with
  | none => true
  | some '\r' => carriageReturn
  | some '\n' => !carriageReturn || before != some '\r'
  | some _ => false

def anchorCondition (flags : Flags) (a : Anchor) : Condition := fun before after =>
  let isWord (c : Option Char) := c.any (letterSet flags .word)
  match a with
  | .lineStart =>
    if flags.multiLine then startsLine flags.carriageReturn before after else before.isNone
  | .lineEnd => if flags.multiLine then endsLine flags.carriageReturn before after else after.isNone
  | .textStart => before.isNone
  | .textEnd => after.isNone
  | .wordBoundary => isWord before != isWord after
  | .notWordBoundary => isWord before == isWord after
  | .wordStart => !isWord before && isWord after
  | .wordEnd => isWord before && !isWord after
  | .wordStartHalf => !isWord before
  | .wordEndHalf => !isWord after

/-! ## Trees -/

/-- The characters that a dot stands for. -/
def dotSet (flags : Flags) : CharSet := fun c =>
  flags.dotAll || (c != '\n' && !(flags.carriageReturn && c == '\r'))

/-! ## Room -/

/-- The room that a few ranges take, in octets. -/
def rangeRoom : Nat := 100

/-- The room of a class with a letter, which has hundreds of ranges for words beyond ASCII. -/
def letterRoom (flags : Flags) (negated : Bool) (letter : LetterClass) : Nat :=
  if !flags.unicode then rangeRoom
  else
    match letter, negated with
    | .digit, false => 4500
    | .digit, true => 11300
    | .blank, false => 700
    | .blank, true => 1900
    | .word, _ => 45000

/-- The room of a property class on average. -/
def propertyRoom : Nat := 20000

/-- The room of everything but a few characters. -/
def complementRoom : Nat := 1000

mutual
/-- The room of a class in brackets or of a part of one. -/
def ClassTree.room (flags : Flags) : ClassTree → Nat
  | .char _ | .range .. | .named .. => rangeRoom
  | .letter negated kind => letterRoom flags negated kind
  | .property .. => propertyRoom
  | .bracketed negated content => room flags content + if negated then complementRoom else 0
  | .union parts => roomOfParts flags parts
  | .operation _ left right => max (room flags left) (room flags right)

/-- The room of several parts together. -/
def ClassTree.roomOfParts (flags : Flags) : List ClassTree → Nat
  | [] => 0
  | part :: rest => room flags part + roomOfParts flags rest
end

mutual
/-- The expression of a tree, and the flags that hold after it. -/
def Tree.meaning? (flags : Flags) : Tree → Option (Expression Move × Flags)
  | .char c octet =>
    if !flags.unicode && octet && !isAscii c then none
    else
      let room := if flags.ignoreCase then rangeRoom else c.utf8Size * Move.stateRoom
      some (.move (.step (flags.fold (· == c)) room), flags)
  | .anyChar =>
    if flags.unicode then some (.move (.step (dotSet flags) complementRoom), flags) else none
  | .anchor a => some (.move (.stay (anchorCondition flags a)), flags)
  | .letter negated kind => do
    let set ← letterClass? flags negated kind
    return (.move (.step set (letterRoom flags negated kind)), flags)
  | .property negated query => do
    return (.move (.step (← propertyClass? flags negated query) propertyRoom), flags)
  | .bracketed negated content => do
    let c := ClassTree.bracketed negated content
    return (.move (.step (← c.set? flags) (c.room flags)), flags)
  | .repetition least most t => do
    return (.repeated least most (← meaning? flags t).1, flags)
  | .flags changes => some (.nothing, flags.change changes)
  | .group changes t => do return ((← meaning? (flags.change changes) t).1, flags)
  | .sequence parts => sequenceMeaning? flags parts
  | .alternation branches => choiceMeaning? flags branches

/-- The expression of parts one after the other. -/
def Tree.sequenceMeaning? (flags : Flags) : List Tree → Option (Expression Move × Flags)
  | [] => some (.nothing, flags)
  | part :: rest => do
    let (a, flags) ← meaning? flags part
    let (b, flags) ← sequenceMeaning? flags rest
    return (.sequence a b, flags)

/-- The expression of a choice. -/
def Tree.choiceMeaning? (flags : Flags) : List Tree → Option (Expression Move × Flags)
  | [] => some (.nothing, flags)
  | [branch] => meaning? flags branch
  | branch :: rest => do
    let (a, flags) ← meaning? flags branch
    let (b, flags) ← choiceMeaning? flags rest
    return (.choice a b, flags)
end

end KubeOverlay.Pattern
