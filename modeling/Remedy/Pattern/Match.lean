/-
# Matching

A text of `n` characters has `n + 1` places.  A set of places is a number whose
bit `i` stands for the place before character `i`, so that one shift moves all
of them past a character.  A `Plan` is a regular expression fitted to one text:
each of its sets of characters has become the set of places before such a
character, and each of its conditions the set of places where it holds.

`Plan.advance` takes the places from which to go on to the places that can be
reached, which takes time in proportion to plan and text, whatever the pattern.
-/

import Remedy.Pattern.Regex

namespace Remedy
namespace Pattern

/-- A regular expression fitted to a text. -/
inductive Plan where
  /-- Past one character, from these places. -/
  | move (places : Nat)
  /-- Where a condition holds. -/
  | check (places : Nat)
  /-- At least `least` and at most `least + more` times. -/
  | rep (p : Plan) (least more : Nat)
  | row (parts : List Plan)
  | choice (branches : List Plan)
  deriving Repr

/-- The bits of a list of answers, the first one lowest. -/
def bitsOf : List Bool → Nat
  | [] => 0
  | b :: rest => 2 * bitsOf rest + b.toNat

/-- The pairs of neighbours at the places of a text: what stands before and
after each. -/
def neighbours (before : Option Char) : List Char → List (Option Char × Option Char)
  | [] => [(before, none)]
  | c :: rest => (before, some c) :: neighbours (some c) rest

/-- The places of a text before a character of a set. -/
def placesBefore (text : List Char) (s : Character.Ranges) : Nat :=
  bitsOf (text.map fun c => s.has c.toNat)

mutual

/-- A regular expression fitted to a text.  A repetition without a bound need not
be tried more often than there are places. -/
def Regex.plan (text : List Char) : Regex → Plan
  | .empty => .row []
  | .text cs => .row (cs.map fun c => .move (bitsOf (text.map (· == c))))
  | .set s => .move (placesBefore text s)
  | .look l => .check (bitsOf ((neighbours none text).map fun p => l.holds p.1 p.2))
  | .group r => r.plan text
  | .rep r least none _ => .rep (r.plan text) least (text.length + 1)
  | .rep r least (some most) _ => .rep (r.plan text) least (most - least)
  | .row parts => .row (Regex.plans text parts)
  | .choice branches => .choice (Regex.plans text branches)

/-- Regular expressions fitted to a text. -/
def Regex.plans (text : List Char) : List Regex → List Plan
  | [] => []
  | r :: rest => r.plan text :: Regex.plans text rest

end

/-- Applies a function so many times, or until it changes nothing. -/
def iterate (f : Nat → Nat) : Nat → Nat → Nat
  | 0, s => s
  | n + 1, s =>
    let t := f s
    if t = s then s else iterate f n t

/-- The members of one set that are not in the other. -/
def without (s t : Nat) : Nat := (s ||| t) ^^^ t

/-- What is reached from `seen` by applying a function at most so many times to
what was reached last. -/
def spread (f : Nat → Nat) : Nat → Nat → Nat → Nat
  | 0, seen, _ => seen
  | n + 1, seen, last =>
    let fresh := without (f last) seen
    if fresh = 0 then seen else spread f n (seen ||| fresh) fresh

mutual

/-- The places that can be reached from some. -/
def Plan.advance : Plan → Nat → Nat
  | .move places, s => (s &&& places) <<< 1
  | .check places, s => s &&& places
  | .rep p least more, s =>
    let s := iterate p.advance least s
    spread p.advance more s s
  | .row parts, s => Plan.advanceRow parts s
  | .choice branches, s => Plan.advanceChoice branches s

/-- The places that can be reached by one plan after another. -/
def Plan.advanceRow : List Plan → Nat → Nat
  | [], s => s
  | p :: rest, s => Plan.advanceRow rest (p.advance s)

/-- The places that can be reached by one of some plans. -/
def Plan.advanceChoice : List Plan → Nat → Nat
  | [], _ => 0
  | p :: rest, s => p.advance s ||| Plan.advanceChoice rest s

end

/-- All places of a text. -/
def allPlaces (text : List Char) : Nat := Nat.pow 2 (text.length + 1) - 1

/-- Whether some stretch of a text matches. -/
def Regex.occursIn (r : Regex) (text : List Char) : Bool :=
  (r.plan text).advance (allPlaces text) != 0

end Pattern
end Remedy
