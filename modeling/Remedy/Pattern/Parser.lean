/-
# Reading patterns

`parse` reads a whole pattern.  Reading is a descent: a sequence of parts ends
at a closing parenthesis or at the end of the pattern, and a group holds a
sequence.  Every step takes a character, so the number of characters bounds the
steps.
-/

import Remedy.Character.Letter
import Remedy.Pattern.Class

namespace Remedy
namespace Pattern

/-- How deep groups, sets, repetitions and rows may nest. -/
def nestLimit : Nat := 250

/-- The greatest number in a counted repetition. -/
def maxCount : Nat := 4294967295

/-- Whether a character may stand in the name of a group. -/
def isNameChar (first : Bool) (c : Char) : Bool :=
  c = '_' || Character.alphabetic.has c.toNat
    || (!first && (c = '.' || c = '[' || c = ']' || Character.numeric.has c.toNat))

namespace Reader

/-- The flag that a letter names. -/
def flag? (c : Char) : Option Flag :=
  match c with
  | 'i' => some .ignoreCase
  | 'm' => some .multiLine
  | 's' => some .dotMatchesNewLine
  | 'U' => some .swapGreed
  | 'u' => some .unicode
  | 'R' => some .crlf
  | 'x' => some .verbose
  | _ => none

/-- The flags up to `:` or `)`, the last one first; `budget` bounds their
number. -/
def flagItems : Nat → List FlagItem → Reader (List FlagItem)
  | 0, items => return items
  | budget + 1, items => do
    match ← peek with
    | none => fail .flagUnexpectedEnd (← here)
    | some c =>
      if c = ':' || c = ')' then
        match items with
        | .negation span :: _ => fail .flagDanglingNegation span
        | items => return items
      else
        let span ← nextSpan
        let item ←
          if c = '-' then pure (FlagItem.negation span)
          else
            match flag? c with
            | some f => pure (FlagItem.flag span f)
            | none => fail .flagUnrecognized span
        match items.find? item.sameAs with
        | some earlier =>
          failAgain (if c = '-' then .flagRepeatedNegation else .flagDuplicate) span earlier.span
        | none =>
          bump
          flagItems budget (item :: items)

/-- The characters of a group's name, up to its closing angle. -/
def nameChars : Nat → Bool → Reader (List Char)
  | 0, _ => return []
  | budget + 1, first => do
    match ← peek with
    | none => fail .groupNameUnexpectedEnd (← here)
    | some c =>
      if c = '>' then return []
      else if isNameChar first c then
        bump
        return c :: (← nameChars budget false)
      else fail .groupNameInvalid (← nextSpan)

/-- The name of a group, which must be new. -/
def groupName : Reader Unit := do
  let start ← place
  let name := String.ofList (← nameChars ((← rest).length + 1) true)
  let span ← since start
  bump
  if name = "" then fail .groupNameEmpty ⟨start, start⟩
  else
    match (← get).names.find? fun n => n.1 == name with
    | some (_, earlier) => failAgain .groupNameDuplicate span earlier
    | none => modify fun s => { s with names := s.names ++ [(name, span)] }

/-- What an opening parenthesis begins. -/
inductive Opening where
  | flags (span : Span) (items : List FlagItem)
  | group (span : Span) (capturing : Bool) (items : List FlagItem)

/-- What an opening parenthesis begins, at the parenthesis. -/
def opening : Reader Opening := do
  let span ← nextSpan
  bump
  bumpSpace
  if ← bumpIfAny ["?=", "?!", "?<=", "?<!"] then
    fail .unsupportedLookAround (← since span.start)
  else
    let inner ← here
    if ← bumpIfAny ["?P<", "?<"] then
      groupName
      return .group span true []
    else if ← bumpIf "?" then
      if (← rest).isEmpty then fail .groupUnclosed span
      else
        let items := (← flagItems ((← rest).length + 1) []).reverse
        let last ← peek
        bump
        if last = some ')' then
          if items.isEmpty then fail .repetitionMissing inner
          else return .flags (← since span.start) items
        else return .group span false items
    else return .group span true []

/-- A number in a counted repetition; an error in it is left to the caller. -/
def count : Reader (Except Error Nat) := do
  bumpMany ((← rest).takeWhile Text.isBlank).length
  let start ← place
  let digits ← takeWhile Char.isDigit
  let span ← since start
  let _ ← takeWhile Text.isBlank
  match Text.digitsValue? digits with
  | none => return .error ⟨.repetitionCountDecimalEmpty, span, none⟩
  | some n => return if n ≤ maxCount then .ok n else .error ⟨.decimalInvalid, span, none⟩

/-- The number, or its error. -/
def ofCount (c : Except Error Nat) : Reader Nat :=
  match c with
  | .ok n => return n
  | .error e => throw e

/-- Passes the mark of a repetition that takes as little as it can, and tells
whether it was there. -/
def passLazy : Reader Bool := do
  let there := (← peek) = some '?'
  if there then bump
  return there

/-- Whether a part can be repeated. -/
def isRepeatable : Syntax → Bool
  | .empty _ => false
  | .flags _ _ => false
  | _ => true

/-- The last of the parts so far, which a repetition is to apply to, and the
parts before it. -/
def operand (parts : List Syntax) : Reader (Syntax × List Syntax) := do
  match parts with
  | p :: before => if isRepeatable p then return (p, before) else fail .repetitionMissing (← here)
  | [] => fail .repetitionMissing (← here)

/-- The parts with the last one repeated, at `?`, `*` or `+`. -/
def uncounted (least : Nat) (most : Option Nat) (parts : List Syntax) : Reader (List Syntax) := do
  let (inner, before) ← operand parts
  bump
  let lazy ← passLazy
  return .repetition (← since inner.span.start) least most lazy inner :: before

/-- The bounds of a counted repetition, after its opening brace at `start`. -/
def bounds (start : Place) : Reader (Nat × Option Nat) := do
  let least ← count
  let unclosed : Reader (Nat × Option Nat) := do fail .repetitionCountUnclosed (← since start)
  match ← peek with
  | none => unclosed
  | some ',' =>
    if ← advance then
      if (← peek) = some '\x7d' then return (← ofCount least, none)
      else
        let least ← ofCount least
        let most ← ofCount (← count)
        return (least, some most)
    else unclosed
  | some _ =>
    let n ← ofCount least
    return (n, some n)

/-- The parts with the last one repeated, at an opening brace. -/
def counted (parts : List Syntax) : Reader (List Syntax) := do
  let start ← place
  let (inner, before) ← operand parts
  if ← advance then
    let (least, most) ← bounds start
    if (← peek) = some '\x7d' then
      let _ ← advance
      let lazy ← passLazy
      if least ≤ most.getD least then
        return .repetition (← since inner.span.start) least most lazy inner :: before
      else fail .repetitionCountInvalid (← since start)
    else fail .repetitionCountUnclosed (← since start)
  else fail .repetitionCountUnclosed (← since start)

/-- A single character or an escape. -/
def atom (c : Char) : Reader Atom := do
  let span ← nextSpan
  match c with
  | '\\' => escape
  | '.' => do
    bump
    return .dot span
  | '^' => do
    bump
    return .assertion span .startLine
  | '$' => do
    bump
    return .assertion span .endLine
  | c => do
    bump
    return .literal ⟨span, c, false⟩

/-- What has been read of a sequence: where the first branch and the current
one begin, the branches before it and the parts of it, the last one first. -/
structure Progress where
  first : Place
  start : Place
  branches : List Syntax
  parts : List Syntax

namespace Progress

/-- Nothing has been read yet. -/
def begin (p : Place) : Progress := ⟨p, p, [], []⟩

/-- The sequence that ends at a place. -/
def finish (s : Progress) (p : Place) : Syntax :=
  .ofBranches ⟨s.first, p⟩ (.ofParts ⟨s.start, p⟩ s.parts.reverse :: s.branches).reverse

/-- Goes on with another branch. -/
def branch (s : Progress) (p next : Place) : Progress :=
  { s with start := next, branches := .ofParts ⟨s.start, p⟩ s.parts.reverse :: s.branches
           parts := [] }

/-- Adds a part. -/
def push (s : Progress) (p : Syntax) : Progress := { s with parts := p :: s.parts }

end Progress

/-- The state that flags set the verbose flag to, where they name it. -/
def setVerbose (items : List FlagItem) : Reader Unit := modify fun s =>
  { s with verbose := (stateOf .verbose items).getD s.verbose }

/-- A sequence, up to a closing parenthesis or the end. -/
def sequence : Nat → Progress → Reader Syntax
  | 0, s => do return s.finish (← place)
  | budget + 1, s => do
    bumpSpace
    match ← peek with
    | none => return s.finish (← place)
    | some c =>
      match c with
      | ')' => return s.finish (← place)
      | '(' =>
        let before := (← get).verbose
        match ← opening with
        | .flags span items => do
          setVerbose items
          sequence budget (s.push (.flags span items))
        | .group span capturing items => do
          setVerbose items
          let inner ← sequence budget (.begin (← place))
          if (← peek).isNone then fail .groupUnclosed span
          else
            modify fun s => { s with verbose := before }
            bump
            sequence budget (s.push (.group (← since span.start) capturing items inner))
      | '|' =>
        let p ← place
        bump
        sequence budget (s.branch p (← place))
      | '[' => sequence budget (s.push (.set (← bracketed ((← rest).length + 1))))
      | '?' => sequence budget { s with parts := ← uncounted 0 (some 1) s.parts }
      | '*' => sequence budget { s with parts := ← uncounted 0 none s.parts }
      | '+' => sequence budget { s with parts := ← uncounted 1 none s.parts }
      | '\x7b' => sequence budget { s with parts := ← counted s.parts }
      | c => sequence budget (s.push (← atom c).toSyntax)

/-- A whole pattern. -/
def whole : Reader Syntax := do
  let s ← sequence ((← rest).length + 1) (.begin (← place))
  if (← rest).isEmpty then return s else fail .groupUnopened (← nextSpan)

end Reader

/-- Whether one level more may be nested. -/
def deeper (depth : Nat) (span : Span) : Except Error Unit :=
  if nestLimit ≤ depth then .error ⟨.nestLimitExceeded nestLimit, span, none⟩ else .ok ()

mutual

/-- Refuses a set that nests too deep. -/
def CharSet.checkDepth (depth : Nat) : CharSet → Except Error Unit
  | .bracketed span _ inner => do
    deeper depth span
    inner.checkDepth (depth + 1)
  | .union span items => do
    deeper depth span
    CharSet.checkDepths (depth + 1) items
  | .binary span _ left right => do
    deeper depth span
    left.checkDepth (depth + 1)
    right.checkDepth (depth + 1)
  | _ => .ok ()

/-- Refuses sets that nest too deep. -/
def CharSet.checkDepths (depth : Nat) : List CharSet → Except Error Unit
  | [] => .ok ()
  | s :: rest => do
    s.checkDepth depth
    CharSet.checkDepths depth rest

end

mutual

/-- Refuses a pattern that nests too deep. -/
def Syntax.checkDepth (depth : Nat) : Syntax → Except Error Unit
  | .set s => s.checkDepth depth
  | .repetition span _ _ _ inner => do
    deeper depth span
    inner.checkDepth (depth + 1)
  | .group span _ _ inner => do
    deeper depth span
    inner.checkDepth (depth + 1)
  | .alternation span branches => do
    deeper depth span
    Syntax.checkDepths (depth + 1) branches
  | .concatenation span parts => do
    deeper depth span
    Syntax.checkDepths (depth + 1) parts
  | _ => .ok ()

/-- Refuses patterns that nest too deep. -/
def Syntax.checkDepths (depth : Nat) : List Syntax → Except Error Unit
  | [] => .ok ()
  | s :: rest => do
    s.checkDepth depth
    Syntax.checkDepths depth rest

end

/-- The syntax of a pattern. -/
def parse (pattern : String) : Except Error Syntax := do
  let (s, _) ← Reader.whole (Cursor.start pattern.toList)
  s.checkDepth 0
  return s

end Pattern
end Remedy
