/-
# From syntax to regular expressions

Flags decide what a piece of syntax means.  They hold from where they are set to
the end of the group around them, so translation hands them on from part to part
and gives back, after a group, those that held before it.

Where Unicode is off, sets consist of bytes, and since the text is UTF-8 all the
time, only ASCII may be asked for.
-/

import Remedy.Character.Folding
import Remedy.Character.Query
import Remedy.Pattern.Error
import Remedy.Pattern.Simplify

namespace Remedy
namespace Pattern

open Character (Ranges)

/-- The flags that bear on meaning. -/
structure Flags where
  ignoreCase : Bool
  multiLine : Bool
  dotMatchesNewLine : Bool
  swapGreed : Bool
  unicode : Bool
  crlf : Bool
  deriving DecidableEq, Repr

namespace Flags

/-- The flags at the start of a pattern. -/
def standard : Flags := ⟨false, false, false, false, true, false⟩

/-- The flags after some have been set. -/
def apply (f : Flags) (items : List FlagItem) : Flags where
  ignoreCase := (stateOf .ignoreCase items).getD f.ignoreCase
  multiLine := (stateOf .multiLine items).getD f.multiLine
  dotMatchesNewLine := (stateOf .dotMatchesNewLine items).getD f.dotMatchesNewLine
  swapGreed := (stateOf .swapGreed items).getD f.swapGreed
  unicode := (stateOf .unicode items).getD f.unicode
  crlf := (stateOf .crlf items).getD f.crlf

/-- The greatest member of a set. -/
def last (f : Flags) : Nat := if f.unicode then Character.lastCodePoint else 0xFF

end Flags

/-- An error at a place. -/
def fault {α : Type} (kind : Error.Kind) (span : Span) : Except Error α := .error ⟨kind, span, none⟩

/-- The ASCII letters of a set in both cases. -/
def foldAscii (s : Ranges) : Ranges :=
  let shifted (low high : Nat) (distance : Int) : Ranges :=
    (Ranges.inter s [(low, high)]).map fun r => ((r.1 + distance).toNat, (r.2 + distance).toNat)
  Ranges.unions [s, shifted 0x41 0x5A 32, shifted 0x61 0x7A (-32)]

/-- A set closed under change of case, where case is ignored. -/
def fold (f : Flags) (s : Ranges) : Ranges :=
  if f.ignoreCase then (if f.unicode then s.foldCase else foldAscii s) else s

/-- Whether a set holds ASCII alone. -/
def isAscii (s : Ranges) : Bool := s.all fun r => r.2 ≤ 0x7F

/-- Refuses a set of bytes that do not stand for themselves in UTF-8. -/
def checkBytes (f : Flags) (span : Span) (s : Ranges) : Except Error Ranges :=
  if f.unicode || isAscii s then .ok s else fault .invalidUtf8 span

/-- A set or what it leaves out, case aside if case is ignored. -/
def foldAndNegate (f : Flags) (span : Span) (negated : Bool) (s : Ranges) : Except Error Ranges :=
  let s := fold f s
  checkBytes f span (if negated then Ranges.compl f.last s else s)

/-- The members of a named ASCII set. -/
def asciiSet (name : String) : Ranges :=
  match name with
  | "alnum" => [(0x30, 0x39), (0x41, 0x5A), (0x61, 0x7A)]
  | "alpha" => [(0x41, 0x5A), (0x61, 0x7A)]
  | "ascii" => [(0, 0x7F)]
  | "blank" => [(0x09, 0x09), (0x20, 0x20)]
  | "cntrl" => [(0, 0x1F), (0x7F, 0x7F)]
  | "digit" => [(0x30, 0x39)]
  | "graph" => [(0x21, 0x7E)]
  | "lower" => [(0x61, 0x7A)]
  | "print" => [(0x20, 0x7E)]
  | "punct" => [(0x21, 0x2F), (0x3A, 0x40), (0x5B, 0x60), (0x7B, 0x7E)]
  | "space" => [(0x09, 0x0D), (0x20, 0x20)]
  | "upper" => [(0x41, 0x5A)]
  | "word" => asciiWordChars
  | "xdigit" => [(0x30, 0x39), (0x41, 0x46), (0x61, 0x66)]
  | _ => []

/-- The members of the set that a letter stands for. -/
def perlSet (unicode : Bool) (kind : Perl) : Ranges :=
  match kind with
  | .digit => if unicode then Character.basicCategory "nd" else asciiSet "digit"
  | .space => if unicode then (Character.property? "whitespace").getD [] else asciiSet "space"
  | .word => if unicode then wordChars else asciiWordChars

/-- The code of a literal: a byte of its own is refused. -/
def literalCode (f : Flags) (l : Literal) : Except Error Nat :=
  if !f.unicode && l.asByte && 0x80 ≤ l.char.toNat then fault .invalidUtf8 l.span
  else .ok l.char.toNat

/-- The code of a literal that is a member of a set. -/
def memberCode (f : Flags) (l : Literal) : Except Error Nat := do
  let n ← literalCode f l
  if f.unicode || n < 0x80 then .ok n else fault .unicodeNotAllowed l.span

/-- The set that a query asks for. -/
def querySet (span : Span) (q : Query) : Except Error Ranges :=
  let found :=
    match q with
    | .named name => Character.setNamed name
    | .byValue name value => Character.setValued name value
  match found with
  | .ok s => .ok s
  | .error .name => fault .propertyNotFound span
  | .error .value => fault .propertyValueNotFound span

/-- Two sets combined. -/
def combineSets (op : SetOperator) (a b : Ranges) : Ranges :=
  match op with
  | .intersection => Ranges.inter a b
  | .difference => Ranges.diff a b
  | .symmetricDifference => Ranges.symm a b

mutual

/-- The members of a set. -/
def CharSet.ranges (f : Flags) : CharSet → Except Error Ranges
  | .empty _ => .ok []
  | .literal l => do
    let n ← memberCode f l
    .ok [(n, n)]
  | .range _ first last => do
    let low ← memberCode f first
    let high ← memberCode f last
    .ok [(low, high)]
  | .ascii span name negated => foldAndNegate f span negated (asciiSet name)
  | .perl span kind negated =>
    let s := perlSet f.unicode kind
    checkBytes f span (if negated then Ranges.compl f.last s else s)
  | .property span q negated =>
    if f.unicode then do
      let s ← querySet span q
      foldAndNegate f span negated s
    else fault .unicodeNotAllowed span
  | .bracketed span negated inner => do
    let s ← inner.ranges f
    foldAndNegate f span negated s
  | .union _ items => do
    let ss ← CharSet.rangesOf f items
    .ok (Ranges.unions ss)
  | .binary _ op left right => do
    let a ← left.ranges f
    let b ← right.ranges f
    .ok (combineSets op (fold f a) (fold f b))

/-- The members of several sets. -/
def CharSet.rangesOf (f : Flags) : List CharSet → Except Error (List Ranges)
  | [] => .ok []
  | s :: rest => do
    let r ← s.ranges f
    let rs ← CharSet.rangesOf f rest
    .ok (r :: rs)

end

/-- The set that a literal outside brackets stands for. -/
def literalSet (f : Flags) (l : Literal) : Except Error Ranges := do
  let n ← literalCode f l
  .ok (if f.unicode || n < 0x80 then fold f [(n, n)] else [(n, n)])

/-- What a dot stands for. -/
def dotSet (f : Flags) (span : Span) : Except Error Ranges :=
  if !f.unicode then fault .invalidUtf8 span
  else if f.dotMatchesNewLine then .ok [(0, Character.lastCodePoint)]
  else
    .ok (Ranges.compl Character.lastCodePoint
      (if f.crlf then [(0x0A, 0x0A), (0x0D, 0x0D)] else [(0x0A, 0x0A)]))

/-- What an assertion asks for. -/
def assertionLook (f : Flags) (kind : Assertion) : Look :=
  match kind with
  | .startLine =>
    if f.multiLine then (if f.crlf then .crlfLineStart else .lineStart) else .textStart
  | .endLine => if f.multiLine then (if f.crlf then .crlfLineEnd else .lineEnd) else .textEnd
  | .startText => .textStart
  | .endText => .textEnd
  | .wordBoundary => .wordBoundary f.unicode
  | .notWordBoundary => .notWordBoundary f.unicode
  | .wordStart => .wordStart f.unicode
  | .wordEnd => .wordEnd f.unicode
  | .wordStartHalf => .wordStartHalf f.unicode
  | .wordEndHalf => .wordEndHalf f.unicode

mutual

/-- What a pattern means under some flags, and the flags that hold after it. -/
def Syntax.translate (f : Flags) : Syntax → Except Error (Regex × Flags)
  | .empty _ => .ok (.empty, f)
  | .flags _ items => .ok (.empty, f.apply items)
  | .literal l => do
    let s ← literalSet f l
    .ok (.ofSet s, f)
  | .dot span => do
    let s ← dotSet f span
    .ok (.ofSet s, f)
  | .assertion _ kind => .ok (.look (assertionLook f kind), f)
  | .set s => do
    let r ← s.ranges f
    .ok (.ofSet r, f)
  | .repetition _ least most lazy inner => do
    let (r, f) ← inner.translate f
    .ok (r.repeated least most (lazy == f.swapGreed), f)
  | .group _ capturing items inner => do
    let (r, _) ← inner.translate (f.apply items)
    .ok (if capturing then .group r else r, f)
  | .alternation _ branches => do
    let (rs, f) ← Syntax.translateAll f branches
    .ok (Regex.oneOf rs, f)
  | .concatenation _ parts => do
    let (rs, f) ← Syntax.translateAll f parts
    .ok (Regex.inRow rs, f)

/-- What patterns mean one after another. -/
def Syntax.translateAll (f : Flags) : List Syntax → Except Error (List Regex × Flags)
  | [] => .ok ([], f)
  | s :: rest => do
    let (r, f) ← s.translate f
    let (rs, f) ← Syntax.translateAll f rest
    .ok (r :: rs, f)

end

end Pattern
end Remedy
