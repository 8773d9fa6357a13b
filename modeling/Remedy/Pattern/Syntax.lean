/-
# The syntax of patterns

A pattern is read into a tree whose nodes know where they stand, so that a
complaint about one of them can point at it.  A `Place` lies between two
characters; a `Span` reaches from one place to another.
-/

namespace Remedy
namespace Pattern

/-- A place in a pattern: how many characters stand before it, and its line and
column, both counted from one. -/
structure Place where
  index : Nat
  line : Nat
  column : Nat
  deriving DecidableEq, Repr

namespace Place

/-- The place before the first character. -/
def origin : Place := ⟨0, 1, 1⟩

/-- The place after a character. -/
def next (p : Place) (c : Char) : Place :=
  if c = '\n' then ⟨p.index + 1, p.line + 1, 1⟩ else ⟨p.index + 1, p.line, p.column + 1⟩

end Place

/-- From one place to another. -/
structure Span where
  start : Place
  stop : Place
  deriving DecidableEq, Repr

/-- The letters that switch ways of reading and matching on or off. -/
inductive Flag where
  | ignoreCase
  | multiLine
  | dotMatchesNewLine
  | swapGreed
  | unicode
  | crlf
  | verbose
  deriving DecidableEq, Repr

/-- An item between `(?` and the end of a group of flags. -/
inductive FlagItem where
  | negation (span : Span)
  | flag (span : Span) (f : Flag)
  deriving DecidableEq, Repr

namespace FlagItem

/-- Where the item stands. -/
def span : FlagItem → Span
  | negation s => s
  | flag s _ => s

/-- Whether two items say the same thing. -/
def sameAs : FlagItem → FlagItem → Bool
  | negation _, negation _ => true
  | flag _ f, flag _ g => f == g
  | _, _ => false

end FlagItem

/-- What a group of flags sets a flag to: true before a negation, false after
it, nothing when the flag is not there. -/
def stateOf (f : Flag) : List FlagItem → Option Bool
  | [] => none
  | .negation _ :: rest => (stateOf f rest).map fun _ => false
  | .flag _ g :: rest => if f = g then some true else stateOf f rest

/-- A place in the text that a pattern asks for. -/
inductive Assertion where
  | startLine
  | endLine
  | startText
  | endText
  | wordBoundary
  | notWordBoundary
  | wordStart
  | wordEnd
  | wordStartHalf
  | wordEndHalf
  deriving DecidableEq, Repr

/-- A character written out.  `asByte` tells the two-digit hexadecimal form,
which names a byte where Unicode is off. -/
structure Literal where
  span : Span
  char : Char
  asByte : Bool
  deriving DecidableEq, Repr

/-- The sets that a single letter stands for. -/
inductive Perl where
  | digit
  | space
  | word
  deriving DecidableEq, Repr

/-- What is asked of the Unicode character database. -/
inductive Query where
  | named (name : String)
  | byValue (name value : String)
  deriving DecidableEq, Repr

/-- The operators between sets. -/
inductive SetOperator where
  | intersection
  | difference
  | symmetricDifference
  deriving DecidableEq, Repr

/-- A set of characters, between brackets or inside them. -/
inductive CharSet where
  | empty (span : Span)
  | literal (l : Literal)
  | range (span : Span) (first last : Literal)
  | ascii (span : Span) (name : String) (negated : Bool)
  | perl (span : Span) (kind : Perl) (negated : Bool)
  | property (span : Span) (query : Query) (negated : Bool)
  | bracketed (span : Span) (negated : Bool) (inner : CharSet)
  | union (span : Span) (items : List CharSet)
  | binary (span : Span) (op : SetOperator) (left right : CharSet)
  deriving Repr

namespace CharSet

/-- Where a set stands. -/
def span : CharSet → Span
  | empty s => s
  | literal l => l.span
  | range s _ _ => s
  | ascii s _ _ => s
  | perl s _ _ => s
  | property s _ _ => s
  | bracketed s _ _ => s
  | union s _ => s
  | binary s _ _ _ => s

end CharSet

/-- A pattern as it is written. -/
inductive Syntax where
  | empty (span : Span)
  | flags (span : Span) (items : List FlagItem)
  | literal (l : Literal)
  | dot (span : Span)
  | assertion (span : Span) (kind : Assertion)
  | set (s : CharSet)
  | repetition (span : Span) (least : Nat) (most : Option Nat) (lazy : Bool) (inner : Syntax)
  | group (span : Span) (capturing : Bool) (items : List FlagItem) (inner : Syntax)
  | alternation (span : Span) (branches : List Syntax)
  | concatenation (span : Span) (parts : List Syntax)
  deriving Repr

namespace Syntax

/-- Where a pattern stands. -/
def span : Syntax → Span
  | empty s => s
  | flags s _ => s
  | literal l => l.span
  | dot s => s
  | assertion s _ => s
  | set s => s.span
  | repetition s _ _ _ _ => s
  | group s _ _ _ => s
  | alternation s _ => s
  | concatenation s _ => s

/-- Parts in a row; a single part stands for itself. -/
def ofParts (span : Span) : List Syntax → Syntax
  | [] => empty span
  | [p] => p
  | parts => concatenation span parts

/-- Branches to choose from; a single branch stands for itself. -/
def ofBranches (span : Span) : List Syntax → Syntax
  | [b] => b
  | branches => alternation span branches

end Syntax
end Pattern
end Remedy
