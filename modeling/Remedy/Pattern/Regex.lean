/-
# Regular expressions

What a pattern means, without regard to how it is written: texts, sets of
characters and places in the text, put together by sequence, choice and
repetition.  How many characters a repetition prefers to take has no bearing on
whether a text matches; it is kept because repetitions that differ in it are not
the same expression (`Regex.same`).
-/

import Remedy.Character.Category
import Remedy.Character.Property

namespace Remedy
namespace Pattern

/-- A condition on a place in the text, in terms of the characters before and
after it.  The flag of the word conditions tells words of any script from words
of ASCII letters, digits and `_`. -/
inductive Look where
  | textStart
  | textEnd
  | lineStart
  | lineEnd
  | crlfLineStart
  | crlfLineEnd
  | wordBoundary (unicode : Bool)
  | notWordBoundary (unicode : Bool)
  | wordStart (unicode : Bool)
  | wordEnd (unicode : Bool)
  | wordStartHalf (unicode : Bool)
  | wordEndHalf (unicode : Bool)
  deriving DecidableEq, Repr

/-- A regular expression. -/
inductive Regex where
  | empty
  /-- These characters, one after another. -/
  | text (cs : List Char)
  /-- One character of a set. -/
  | set (s : Character.Ranges)
  | look (l : Look)
  /-- A group whose text would be remembered. -/
  | group (r : Regex)
  /-- At least `least` times, and at most `most` times if there is a bound. -/
  | rep (r : Regex) (least : Nat) (most : Option Nat) (greedy : Bool)
  | row (parts : List Regex)
  | choice (branches : List Regex)
  deriving Repr

/-- The characters of words, in any script. -/
def wordChars : Character.Ranges :=
  Character.Ranges.unions
    [(Character.property? "alphabetic").getD [], (Character.category? "m").getD [],
      Character.basicCategory "nd", Character.basicCategory "pc",
      (Character.property? "joincontrol").getD []]

/-- The ASCII characters of words. -/
def asciiWordChars : Character.Ranges := [(0x30, 0x39), (0x41, 0x5A), (0x5F, 0x5F), (0x61, 0x7A)]

/-- Whether there is a character and it belongs to a word. -/
def inWord (unicode : Bool) (c : Option Char) : Bool :=
  match c with
  | none => false
  | some c => if unicode then wordChars.has c.toNat else asciiWordChars.has c.toNat

/-- Whether a condition holds between two characters; at the ends of the text
there is none. -/
def Look.holds (l : Look) (before after : Option Char) : Bool :=
  match l with
  | .textStart => before.isNone
  | .textEnd => after.isNone
  | .lineStart => before.isNone || before = some '\n'
  | .lineEnd => after.isNone || after = some '\n'
  | .crlfLineStart =>
    before.isNone || before = some '\n' || (before = some '\r' && after ≠ some '\n')
  | .crlfLineEnd =>
    after.isNone || after = some '\r' || (after = some '\n' && before ≠ some '\r')
  | .wordBoundary u => inWord u before != inWord u after
  | .notWordBoundary u => inWord u before == inWord u after
  | .wordStart u => !inWord u before && inWord u after
  | .wordEnd u => inWord u before && !inWord u after
  | .wordStartHalf u => !inWord u before
  | .wordEndHalf u => !inWord u after

/-- Whether a condition tells words of any script from what is between them. -/
def Look.wantsWords : Look → Bool
  | .wordBoundary u | .notWordBoundary u | .wordStart u | .wordEnd u | .wordStartHalf u
  | .wordEndHalf u => u
  | _ => false

namespace Regex

mutual

/-- The least number of characters that a match takes; none where a set without
members decides it. -/
def fewest : Regex → Option Nat
  | empty => some 0
  | text cs => some cs.length
  | set s => if s.isEmpty then none else some 1
  | look _ => some 0
  | group r => r.fewest
  | rep r least _ _ => r.fewest.map (· * least)
  | row parts => fewestOfRow parts
  | choice branches => fewestOfChoice branches

/-- The least number of characters that matches in a row take. -/
def fewestOfRow : List Regex → Option Nat
  | [] => some 0
  | r :: rest => do return (← r.fewest) + (← fewestOfRow rest)

/-- The least number of characters that a match of one of these takes. -/
def fewestOfChoice : List Regex → Option Nat
  | [] => none
  | [r] => r.fewest
  | r :: rest => do return min (← r.fewest) (← fewestOfChoice rest)

end

mutual

/-- Whether a match can take no character; false where a set without members
decides it. -/
def takesNothing : Regex → Bool
  | empty => true
  | text cs => cs.isEmpty
  | set _ => false
  | look _ => true
  | group r => r.takesNothing
  | rep r _ most _ => most = some 0 || (most.isSome && r.takesNothing)
  | row parts => allTakeNothing parts
  | choice branches => !branches.isEmpty && allTakeNothing branches

/-- Whether no match of any of these can take a character. -/
def allTakeNothing : List Regex → Bool
  | [] => true
  | r :: rest => r.takesNothing && allTakeNothing rest

end

mutual

/-- Whether every match begins with a condition. -/
def opensWith (l : Look) : Regex → Bool
  | look k => k = l
  | group r => r.opensWith l
  | rep r least _ _ => least ≠ 0 && r.opensWith l
  | row parts => rowOpensWith l parts
  | choice branches => !branches.isEmpty && allOpenWith l branches
  | _ => false

/-- Whether every match in a row begins with a condition. -/
def rowOpensWith (l : Look) : List Regex → Bool
  | [] => false
  | r :: rest => r.opensWith l || (r.takesNothing && rowOpensWith l rest)

/-- Whether all matches of all of these begin with a condition. -/
def allOpenWith (l : Look) : List Regex → Bool
  | [] => true
  | r :: rest => r.opensWith l && allOpenWith l rest

end

mutual

/-- Whether every match ends with a condition. -/
def closesWith (l : Look) : Regex → Bool
  | look k => k = l
  | group r => r.closesWith l
  | rep r least _ _ => least ≠ 0 && r.closesWith l
  | row parts => rowClosesWith l parts
  | choice branches => !branches.isEmpty && allCloseWith l branches
  | _ => false

/-- Whether every match in a row ends with a condition. -/
def rowClosesWith (l : Look) : List Regex → Bool
  | [] => false
  | r :: rest => rowClosesWith l rest || (allTakeNothing rest && r.closesWith l)

/-- Whether all matches of all of these end with a condition. -/
def allCloseWith (l : Look) : List Regex → Bool
  | [] => true
  | r :: rest => r.closesWith l && allCloseWith l rest

end

mutual

/-- Whether two expressions are the same.  A group is the same as no other, since
each remembers a text of its own. -/
def same : Regex → Regex → Bool
  | empty, empty => true
  | text a, text b => a == b
  | set s, set t => s == t
  | look k, look l => k == l
  | rep r least most greedy, rep s least' most' greedy' =>
    least == least' && most == most' && greedy == greedy' && same r s
  | row a, row b => sameAll a b
  | choice a, choice b => sameAll a b
  | _, _ => false

/-- Whether expressions are the same one by one. -/
def sameAll : List Regex → List Regex → Bool
  | [], [] => true
  | r :: a, s :: b => same r s && sameAll a b
  | _, _ => false

end

mutual

/-- Whether an expression has such a condition anywhere. -/
def wantsWords : Regex → Bool
  | look l => l.wantsWords
  | group r => r.wantsWords
  | rep r _ _ _ => r.wantsWords
  | row parts => anyWantsWords parts
  | choice branches => anyWantsWords branches
  | _ => false

/-- Whether one of these has such a condition anywhere. -/
def anyWantsWords : List Regex → Bool
  | [] => false
  | r :: rest => r.wantsWords || anyWantsWords rest

end

mutual

/-- How many expressions an expression consists of. -/
def count : Regex → Nat
  | group r => r.count + 1
  | rep r _ _ _ => r.count + 1
  | row parts => countAll parts + 1
  | choice branches => countAll branches + 1
  | _ => 1

/-- How many expressions some expressions consist of. -/
def countAll : List Regex → Nat
  | [] => 0
  | r :: rest => r.count + countAll rest

end

end Regex
end Pattern
end Remedy
