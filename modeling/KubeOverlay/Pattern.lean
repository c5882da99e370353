import KubeOverlay.Pattern.Read
import KubeOverlay.Pattern.Meaning
/-!
# Patterns

Regular expressions that are searched for in strings. A search keeps the set of the places that a
part of the expression can reach: a place lies before each character and one after the last, and a
set of places is a number whose bits say which places are in it.
-/
namespace KubeOverlay

/-- A set of places in a text, by the bits of a number. -/
abbrev Places := Nat

/-- An expression to search for. -/
structure Pattern where
  expression : Pattern.Expression Pattern.Move

namespace Pattern

/-! ## Places -/

/-- The places at which a property of the index holds, below a bound. -/
def placesWhere (bound : Nat) (p : Nat → Bool) : Places :=
  (List.range bound).foldl (fun places n => if p n then places ||| 1 <<< n else places) 0

/-- The move of an expression in a certain text. -/
inductive Jump where
  /-- From these places to the next. -/
  | step (places : Places)
  | stay (places : Places)

/-- The places of a text from which a move can be made. -/
def Move.jump (text : Array Char) : Move → Jump
  | .step set _ => .step (placesWhere text.size fun n => text[n]?.any set)
  | .stay condition =>
    .stay (placesWhere (text.size + 1) fun n =>
      condition (if n == 0 then none else text[n - 1]?) text[n]?)

/-! ## Reach -/

/-- A reach taken so often, as long as it changes the places. -/
def iterate (reach : Places → Places) : Nat → Places → Places
  | 0, places => places
  | count + 1, places =>
    let next := reach places
    if next == places then places else iterate reach count next

/-- A reach taken at most so often, as long as it adds places. -/
def saturate (reach : Places → Places) : Nat → Places → Places
  | 0, places => places
  | count + 1, places =>
    let more := places ||| reach places
    if more == places then places else saturate reach count more

/-- The places that an expression leads to from some of the places of a text of a certain length. -/
def Expression.reach (length : Nat) : Expression Jump → Places → Places
  | .nothing, places => places
  | .move (.step sources), places => (places &&& sources) <<< 1
  | .move (.stay here), places => places &&& here
  | .sequence a b, places => b.reach length (a.reach length places)
  | .choice a b, places => a.reach length places ||| b.reach length places
  | .repetition least most e, places =>
    -- Places are added at most as often as there are places.
    saturate (e.reach length) ((most.map (· - least)).getD (length + 1))
      (iterate (e.reach length) least places)

/-- Whether the pattern matches somewhere in a text. -/
def occursIn (p : Pattern) (s : String) : Bool :=
  let text := s.toList.toArray
  let everywhere := Nat.pow 2 (text.size + 1) - 1
  (p.expression.map (·.jump text)).reach text.size everywhere != 0

/-! ## Reading -/

/-- The room that an expression may take, in octets. -/
def maxRoom : Nat := 10 * Nat.pow 2 20

/-- The pattern that a text writes, if it writes one that is not too large. -/
def read? (text : String) : Option Pattern := do
  let tree ← Tree.read? text
  let (expression, _) ← tree.meaning? {}
  if expression.room Move.stateRoom Move.room ≤ maxRoom then return ⟨expression⟩ else none

end Pattern

end KubeOverlay
