/-
# Wildcards

Patterns that match whole texts: `*` any text, `?` any character, and a list in
brackets one of its characters.  A list has single characters, ranges and classes
such as `[:digit:]`; after `!` it means all other characters.  A character that is
quoted stands for itself.
-/

import Remedy.Host.Path

namespace Remedy
namespace Host
namespace Shell
namespace Wildcard

/-- A pattern: characters, and whether they are quoted. -/
abbrev Pattern := List (Char × Bool)

/-- A pattern in which backslashes quote what follows them. -/
def unescaped : Pattern → Pattern
  | [('\\', false)] => [('\\', true)]
  | ('\\', false) :: (c, _) :: rest => (c, true) :: unescaped rest
  | p :: rest => p :: unescaped rest
  | [] => []

/-- Whether a character is a visible one of ASCII. -/
def isGraphic (c : Char) : Bool := '!' ≤ c && c ≤ '~'

/-- The classes by their names. -/
def classes : List (String × (Char → Bool)) :=
  [("alnum", Char.isAlphanum), ("alpha", Char.isAlpha), ("blank", fun c => c = ' ' || c = '\t'),
    ("cntrl", fun c => c < ' ' || c = '\x7f'), ("digit", Char.isDigit), ("graph", isGraphic),
    ("lower", Char.isLower), ("print", fun c => c = ' ' || isGraphic c),
    ("punct", fun c => isGraphic c && !c.isAlphanum),
    ("space", fun c => c = ' ' || ('\t' ≤ c && c ≤ '\r')), ("upper", Char.isUpper),
    ("xdigit", fun c => c.isDigit || ('a' ≤ c && c ≤ 'f') || ('A' ≤ c && c ≤ 'F'))]

/-- The class that a pattern after a bracket begins with, and what follows it. -/
def class? (p : Pattern) : Option ((Char → Bool) × Pattern) :=
  classes.findSome? fun (name, f) =>
    let text : Pattern := (":" ++ name ++ ":]").toList.map fun c => (c, false)
    if text.isPrefixOf p then some (f, p.drop text.length) else none

/-- The order of characters, in which those outside ASCII come first. -/
def order (c : Char) : Int := if c.toNat < 128 then c.toNat else (c.toNat : Int) - 256

/-- Whether a list in brackets has a character, and what follows the list; as far
as a number of steps goes.  A list without an end is none. -/
def memberFrom (c : Char) : Nat → Bool → Pattern → Option (Bool × Pattern)
  | 0, _, _ => none
  | _ + 1, _, [] => none
  | n + 1, found, (a, q) :: rest =>
    let goOn (found : Bool) (rest : Pattern) : Option (Bool × Pattern) :=
      match rest with
      | (']', false) :: after => some (found, after)
      | rest => memberFrom c n found rest
    match if a = '[' ∧ !q then class? rest else none with
    | some (f, rest) => goOn (found || f c) rest
    | none =>
      match rest with
      | ('-', false) :: (b, r) :: after =>
        if b = ']' ∧ !r then goOn (found || a = c) rest
        else goOn (found || (order a ≤ order c && order c ≤ order b)) after
      | _ => goOn (found || a = c) rest

/-- Whether a pattern after a bracket begins with a list that has a character, and
what follows the list. -/
def member? (c : Char) (p : Pattern) : Option (Bool × Pattern) :=
  match p with
  | ('!', false) :: p => (memberFrom c (p.length + 1) false p).map fun (f, rest) => (!f, rest)
  | p => memberFrom c (p.length + 1) false p

/-- Whether a pattern matches a text, as far as a number of steps goes. -/
def fitsFrom : Nat → Pattern → Octets → Bool
  | 0, _, _ => false
  | _ + 1, [], cs => cs.isEmpty
  | n + 1, ('*', false) :: rest, cs =>
    fitsFrom n rest cs ||
      match cs with
      | [] => false
      | _ :: cs => fitsFrom n (('*', false) :: rest) cs
  | _ + 1, _ :: _, [] => false
  | n + 1, ('?', false) :: rest, _ :: cs => fitsFrom n rest cs
  | n + 1, ('[', false) :: rest, c :: cs =>
    match member? c rest with
    | some (f, after) => f && fitsFrom n after cs
    | none => c = '[' && fitsFrom n rest cs
  | n + 1, (p, _) :: rest, c :: cs => p = c && fitsFrom n rest cs

/-- A pattern in which a run of `*` is a single one. -/
def single : Pattern → Pattern
  | ('*', false) :: ('*', false) :: rest => single (('*', false) :: rest)
  | p :: rest => p :: single rest
  | [] => []

/-- Whether a pattern matches a text. -/
def fits (p : Pattern) (cs : Octets) : Bool := fitsFrom (p.length + cs.length + 1) (single p) cs

/-- Whether a pattern matches a text up to the first null in it. -/
def fitsUpToNull (p : Pattern) (cs : Octets) : Bool := fits p (cs.takeWhile (· != '\x00'))

/-- A text without what a pattern matches at its beginning. -/
def trimStart (longest : Bool) (p : Pattern) (cs : Octets) : Octets :=
  let lengths := (List.range (cs.length + 1)).filter fun n => fitsUpToNull p (cs.take n)
  match if longest then lengths.getLast? else lengths.head? with
  | some n => cs.drop n
  | none => cs

/-- A text without what a pattern matches at its end. -/
def trimEnd (longest : Bool) (p : Pattern) (cs : Octets) : Octets :=
  let lengths := (List.range (cs.length + 1)).filter fun n => fitsUpToNull p (cs.drop n)
  match if longest then lengths.head? else lengths.getLast? with
  | some n => cs.take n
  | none => cs

/-- Whether a bracket has an end in the same name, at least one character away. -/
def closes : Bool → Pattern → Bool
  | _, [] => false
  | first, (c, q) :: rest =>
    if c = '/' then false
    else if c = ']' ∧ !q ∧ !first then true
    else closes false rest

/-- Whether a pattern has anything that does not stand for itself. -/
def isWild : Pattern → Bool
  | [] => false
  | ('*', false) :: _ | ('?', false) :: _ => true
  | ('[', false) :: ('!', false) :: rest => closes true rest || isWild rest
  | ('[', false) :: rest => closes true rest || isWild rest
  | _ :: rest => isWild rest

/-- The text that a pattern is if everything in it stands for itself. -/
def text (p : Pattern) : Octets := p.map (·.1)

end Wildcard
end Shell
end Host
end Remedy
