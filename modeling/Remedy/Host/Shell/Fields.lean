/-
# Cutting expansions into fields

The words of a command expand to *pieces*.  Those that are not quoted are cut at
separators: a run of blanks among them is one separator, any other one with the
blanks around it as well.  The last field of a limited number takes all that is
left, except for blanks and perhaps one separator at its end.
-/

import Remedy.Host.Shell.Wildcard

namespace Remedy
namespace Host
namespace Shell

/-- What a part of a word expands to. -/
inductive Piece where
  /-- Text that is not cut. -/
  | fixed (quoted : Bool) (cs : Octets)
  /-- Text that is cut at separators. -/
  | loose (cs : Octets)
  /-- The end of an argument. -/
  | gap

namespace Piece

/-- The characters of a piece, and whether they are quoted; `separator` stands
between arguments. -/
def marked (separator : Octets) : Piece → Wildcard.Pattern
  | fixed q cs => cs.map fun c => (c, q)
  | loose cs => cs.map fun c => (c, false)
  | gap => separator.map fun c => (c, true)

/-- The text of pieces that are not cut. -/
def joined (separator : Octets) (ps : List Piece) : Octets :=
  (ps.flatMap (marked separator)).map (·.1)

/-- Pieces as a pattern, whose quoted characters stand for themselves. -/
def pattern (separator : Octets) (ps : List Piece) : Wildcard.Pattern :=
  Wildcard.unescaped (ps.flatMap (marked separator))

end Piece

/-- Fields while they are put together: those that are finished, the last one first,
and the one that is not. -/
structure Assembly where
  finished : List Wildcard.Pattern
  current : Option Wildcard.Pattern
  /-- Whether a blank was the last separator, and nothing has followed it. -/
  afterBlank : Bool
  /-- How many fields there may still be, if that is limited. -/
  left : Option Nat
  /-- How much of the last field there may be is kept. -/
  kept : Option Nat

namespace Assembly

/-- No fields yet. -/
def start (limit : Option Nat) : Assembly := ⟨[], none, false, limit, none⟩

/-- Adds characters to the current field. -/
def extend (a : Assembly) (p : Wildcard.Pattern) : Assembly :=
  { a with current := some (a.current.getD [] ++ p), afterBlank := false }

/-- Ends the current field. -/
def finish (a : Assembly) (afterBlank : Bool) : Assembly :=
  { a with finished := a.current.getD [] :: a.finished, current := none, afterBlank := afterBlank }

/-- Adds a character that may be a separator. -/
def add (separators : Octets) (a : Assembly) (c : Char) : Assembly :=
  let separates := separators.contains c
  let isBlank := separates && (c = ' ' || c = '\t' || c = '\n')
  let length := (a.current.getD []).length
  if a.left = some 0 then
    let b := { a with current := some (a.current.getD [] ++ [(c, false)]) }
    if isBlank then { b with kept := some (a.kept.getD length) }
    else if separates && a.afterBlank then { b with afterBlank := false }
    else { b with kept := none, afterBlank := false }
  else if !separates then a.extend [(c, false)]
  else if a.afterBlank then { a with afterBlank := isBlank }
  else if isBlank && a.current.isNone then a
  else
    match a.left with
    | some 1 =>
      { a with
        current := some (a.current.getD [] ++ [(c, false)]), afterBlank := isBlank
        left := some 0, kept := some length }
    | left => { a.finish isBlank with left := left.map (· - 1) }

/-- Adds a piece. -/
def piece (separators : Octets) (a : Assembly) : Piece → Assembly
  | .fixed q cs => if q || !cs.isEmpty then a.extend (cs.map fun c => (c, q)) else a
  | .loose cs => cs.foldl (add separators) { a with afterBlank := false }
  | .gap => if a.current.isSome then a.finish false else { a with afterBlank := false }

/-- All fields. -/
def fields (a : Assembly) : List Wildcard.Pattern :=
  match a.current, a.kept with
  | none, _ => a.finished.reverse
  | some p, none => (p :: a.finished).reverse
  | some p, some n => ((if n = 0 then [] else [p.take n]) ++ a.finished).reverse

end Assembly

/-- The fields that pieces make. -/
def fields (separators : Octets) (ps : List Piece) : List Wildcard.Pattern :=
  (ps.foldl (Assembly.piece separators) (.start none)).fields

/-- The texts of at most so many fields that pieces make. -/
def fieldsWithin (limit : Nat) (separators : Octets) (ps : List Piece) : List Octets :=
  (ps.foldl (Assembly.piece separators) (.start (some limit))).fields.map Wildcard.text

end Shell
end Host
end Remedy
