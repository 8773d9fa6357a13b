/-
# Simple regular expressions

An expression is built in the simplest of several forms that mean the same.
Texts in a row become one text, a choice between characters becomes a set, what
all rows of a choice begin with is taken out of the choice, and what takes no
character is not repeated.
-/

import Remedy.Pattern.Regex

namespace Remedy
namespace Pattern
namespace Regex

open Character (Ranges)

/-- A set as an expression; a set with one member is a text. -/
def ofSet : Ranges → Regex
  | [(low, high)] => if low = high then text [Char.ofNat low] else set [(low, high)]
  | s => set s

/-- The parts that an expression is a row of. -/
def parts : Regex → List Regex
  | empty => []
  | row parts => parts
  | r => [r]

/-- Joins texts that stand side by side. -/
def joinTexts : List Regex → List Regex
  | [] => []
  | text a :: rest =>
    match joinTexts rest with
    | text b :: more => text (a ++ b) :: more
    | rest => text a :: rest
  | r :: rest => r :: joinTexts rest

/-- Expressions in a row. -/
def inRow (rs : List Regex) : Regex :=
  match joinTexts (rs.flatMap parts) with
  | [] => empty
  | [r] => r
  | rs => row rs

/-- The branches that an expression is a choice of. -/
def branches : Regex → List Regex
  | choice branches => branches
  | r => [r]

/-- The set of an expression that is a single character. -/
def character? : Regex → Option Ranges
  | text [c] => some [(c.toNat, c.toNat)]
  | _ => none

/-- The set that an expression is. -/
def set? : Regex → Option Ranges
  | set s => some s
  | _ => none

/-- The parts of a row. -/
def row? : Regex → Option (List Regex)
  | row parts => some parts
  | _ => none

/-- What two rows both begin with. -/
def sharedStart : List Regex → List Regex → List Regex
  | r :: a, s :: b => if same r s then r :: sharedStart a b else []
  | _, _ => []

/-- What all rows begin with. -/
def sharedStartOf : List (List Regex) → List Regex
  | [] => []
  | [r] => r
  | r :: rest => sharedStart r (sharedStartOf rest)

/-- Expressions to choose from; of none, the one that matches nothing.  Taking
out what the branches begin with leaves a smaller choice, so their size bounds
how often that is done. -/
def oneOfWithin : Nat → List Regex → Regex
  | 0, rs => choice rs
  | budget + 1, rs =>
    match rs.flatMap branches with
    | [] => set []
    | [r] => r
    | rs =>
      match rs.mapM character? <|> rs.mapM set? with
      | some ss => ofSet (Ranges.unions ss)
      | none =>
        match rs.mapM row? with
        | none => choice rs
        | some rows =>
          match sharedStartOf rows with
          | [] => choice rs
          | shared =>
            let rests := rows.map fun r => inRow (r.drop shared.length)
            inRow (shared ++ [oneOfWithin budget rests])

/-- Expressions to choose from. -/
def oneOf (rs : List Regex) : Regex := oneOfWithin (countAll rs + 1) rs

/-- An expression repeated.  What takes no character need not be repeated more
than once. -/
def repeated (r : Regex) (least : Nat) (most : Option Nat) (greedy : Bool) : Regex :=
  let least := if r.takesNothing then min least 1 else least
  let most := if r.takesNothing then some (min (most.getD 1) 1) else most
  if most = some 0 then empty
  else if least = 1 && most = some 1 then r
  else rep r least most greedy

end Regex
end Pattern
end Remedy
