/-
# Paths into settings

The name of a setting may be a path: `a.b` is the member `b` of the table `a`,
and `a[2]` the item of the list `a` with index two, `a[-1]` its last item.  A
name that is no path stands for itself.

`Value.put` puts a value where a path leads.  Whatever is in the way and not of
the kind that the path needs is replaced.
-/

import Remedy.Settings.Value

namespace Remedy
namespace Settings

/-- A step into a value. -/
inductive Step where
  | member (name : String)
  | item (index : Int)
  deriving DecidableEq, Repr

/-- A name and the steps from there. -/
structure Path where
  name : String
  steps : List Step
  deriving DecidableEq, Repr

namespace Path

/-- The characters of names in a path. -/
def isNameChar (c : Char) : Bool := c.isAlphanum || c = ' ' || c = '_' || c = '-'

/-- A name and what follows it. -/
def name? (cs : List Char) : Option (String × List Char) :=
  let name := cs.takeWhile isNameChar
  if name.isEmpty then none else some (String.ofList name, cs.dropWhile isNameChar)

/-- A text without the blanks and tabs it begins with. -/
def skip (cs : List Char) : List Char := cs.dropWhile fun c => c = ' ' || c = '\t'

/-- An index up to its closing bracket, and what follows the bracket. -/
def index? (cs : List Char) : Option (Int × List Char) :=
  let cs := skip cs
  let (sign, rest) :=
    match cs with
    | '-' :: rest => (['-'], rest)
    | rest => ([], rest)
  let digits := rest.takeWhile Char.isDigit
  match Text.signed? (sign ++ digits), skip (rest.dropWhile Char.isDigit) with
  | some n, ']' :: rest => some (n, rest)
  | _, _ => none

/-- The steps that a text spells; `budget` bounds their number. -/
def steps? : Nat → List Char → Option (List Step)
  | _, [] => some []
  | 0, _ => none
  | budget + 1, '.' :: rest => do
    let (name, rest) ← name? rest
    let steps ← steps? budget rest
    return .member name :: steps
  | budget + 1, '[' :: rest => do
    let (n, rest) ← index? rest
    let steps ← steps? budget rest
    return .item n :: steps
  | _ + 1, _ => none

/-- The path that a name spells. -/
def read? (s : String) : Option Path := do
  let (name, rest) ← name? s.toList
  let steps ← steps? rest.length rest
  return ⟨name, steps⟩

/-- The path of a name; one that spells none is taken as it is. -/
def ofName (s : String) : Path := (read? s).getD ⟨s, []⟩

end Path

/-- Members with the one of a name replaced, or added at the end. -/
def upsert (name : String) (f : Option Value → Value) :
    List (String × Value) → List (String × Value)
  | [] => [(name, f none)]
  | (k, v) :: rest => if k = name then (k, f (some v)) :: rest else (k, v) :: upsert name f rest

/-- The place of an index in a list of some length; negative ones count from the
end. -/
def place? (length : Nat) (index : Int) : Option Nat :=
  if 0 ≤ index then some index.toNat
  else if -index ≤ length then some (length - (-index).toNat) else none

/-- Items with one replaced; missing ones before it are filled up with nothing. -/
def replaceItem (f : Value → Value) : Nat → List Value → List Value
  | 0, [] => [f .nil]
  | 0, v :: rest => f v :: rest
  | n + 1, [] => .nil :: replaceItem f n []
  | n + 1, v :: rest => v :: replaceItem f n rest

namespace Value

/-- The members of a table; anything else has none. -/
def members : Value → List (String × Value)
  | table ms => ms
  | _ => []

/-- The items of a list; anything else has none. -/
def items : Value → List Value
  | list _ vs => vs
  | _ => []

/-- Whether a value is a list that someone wrote out. -/
def isDeclaredList : Value → Bool
  | list declared _ => declared
  | _ => false

/-- Puts a value where some steps lead. -/
def put (v : Value) : List Step → Value → Value
  | [], _ => v
  | .member name :: rest, old =>
    table (upsert name (fun m => put v rest (m.getD nil)) old.members)
  | .item index :: rest, old =>
    match place? old.items.length index with
    | some n => list old.isDeclaredList (replaceItem (put v rest) n old.items)
    | none => old

/-- Puts a value where a path leads. -/
def putAt (settings : Value) (p : Path) (v : Value) : Value :=
  put v (.member p.name :: p.steps) settings

end Value
end Settings
end Remedy
