/-
# Walking through a pattern

A reader of patterns keeps what is left of the text, the place it has reached,
whether blanks and comments are to be passed over, and the names of the groups
so far.  `Reader` is a computation on such a cursor that may end in an error.
-/

import Remedy.Pattern.Error
import Remedy.Text.Pieces

namespace Remedy
namespace Pattern

/-- Where a reader stands. -/
structure Cursor where
  rest : List Char
  place : Place
  /-- Blanks and comments have no meaning. -/
  verbose : Bool
  /-- The names of the groups so far, and where they stand. -/
  names : List (String × Span)

/-- The cursor before a text. -/
def Cursor.start (text : List Char) : Cursor := ⟨text, Place.origin, false, []⟩

/-- A reader of a part of a pattern. -/
abbrev Reader := StateT Cursor (Except Error)

namespace Reader

/-- Ends in an error. -/
def fail {α : Type} (kind : Error.Kind) (span : Span) : Reader α := throw ⟨kind, span, none⟩

/-- Ends in an error that refers back to an earlier place. -/
def failAgain {α : Type} (kind : Error.Kind) (span earlier : Span) : Reader α :=
  throw ⟨kind, span, some earlier⟩

/-- The place reached. -/
def place : Reader Place := return (← get).place

/-- What is left of the text. -/
def rest : Reader (List Char) := return (← get).rest

/-- The next character. -/
def peek : Reader (Option Char) := return (← get).rest.head?

/-- The empty span at the place reached. -/
def here : Reader Span := return ⟨(← get).place, (← get).place⟩

/-- The span from a place to the one reached. -/
def since (start : Place) : Reader Span := return ⟨start, (← get).place⟩

/-- The span of the next character. -/
def nextSpan : Reader Span := do
  let s ← get
  match s.rest with
  | c :: _ => return ⟨s.place, s.place.next c⟩
  | [] => return ⟨s.place, s.place⟩

/-- Passes one character. -/
def bump : Reader Unit := modify fun s =>
  match s.rest with
  | c :: rest => { s with rest := rest, place := s.place.next c }
  | [] => s

/-- Passes some characters. -/
def bumpMany : Nat → Reader Unit
  | 0 => return ()
  | n + 1 => do
    bump
    bumpMany n

/-- What is left after blanks and comments; a comment reaches from `#` to the
end of its line. -/
def passBlanks : Bool → Place → List Char → Place × List Char
  | _, p, [] => (p, [])
  | true, p, c :: rest => passBlanks (c ≠ '\n') (p.next c) rest
  | false, p, c :: rest =>
    if Text.isBlank c then passBlanks false (p.next c) rest
    else if c = '#' then passBlanks true (p.next c) rest
    else (p, c :: rest)

/-- Passes blanks and comments where they have no meaning. -/
def bumpSpace : Reader Unit := modify fun s =>
  if s.verbose then
    let (p, rest) := passBlanks false s.place s.rest
    { s with rest := rest, place := p }
  else s

/-- Passes one character and any blanks, and tells whether there is more. -/
def advance : Reader Bool := do
  bump
  bumpSpace
  return !(← rest).isEmpty

/-- Passes a word if it comes next, and tells whether it did. -/
def bumpIf (word : String) : Reader Bool := do
  if word.toList.isPrefixOf (← rest) then
    bumpMany word.length
    return true
  else
    return false

/-- Tries the words in turn. -/
def bumpIfAny : List String → Reader Bool
  | [] => return false
  | w :: ws => do
    if ← bumpIf w then return true else bumpIfAny ws

/-- The first character after blanks and at most one `#` among them. -/
def afterBlanks : Bool → List Char → Option Char
  | _, [] => none
  | passed, c :: rest =>
    if Text.isBlank c then afterBlanks passed rest
    else if !passed && c = '#' then afterBlanks true rest
    else some c

/-- The character after the next one, blanks left out where they have no
meaning. -/
def peekSpace : Reader (Option Char) := do
  let s ← get
  match s.rest with
  | [] => return none
  | _ :: rest =>
    if s.verbose then return (afterBlanks false rest <|> rest.head?) else return rest.head?

/-- Takes characters while they pass a test, with `budget` as the bound. -/
def collect (test : Char → Bool) : Nat → Reader (List Char)
  | 0 => return []
  | budget + 1 => do
    match ← peek with
    | some c =>
      if test c then
        let _ ← advance
        return c :: (← collect test budget)
      else return []
    | none => return []

/-- Takes characters while they pass a test. -/
def takeWhile (test : Char → Bool) : Reader (List Char) := do collect test (← rest).length

end Reader
end Pattern
end Remedy
