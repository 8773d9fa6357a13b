/-
# Sets of code points as ranges

A set of code points is a list of inclusive ranges.  Membership is defined for
any such list; the algebra (`union`, `inter`, `compl`, `diff`, `symm`) keeps
the ranges ascending and apart when its arguments are.

Tables are kept as text, which `Ranges.ofText` reads: numbers in hexadecimal,
a range as two numbers joined by `-`, blanks between entries.
-/

import Remedy.Text.Pieces

namespace Remedy
namespace Character

/-- Inclusive ranges of code points. -/
abbrev Ranges := List (Nat × Nat)

/-- The greatest code point. -/
def lastCodePoint : Nat := 0x10FFFF

namespace Ranges

/-- Whether a code point lies in one of the ranges. -/
def has (s : Ranges) (n : Nat) : Bool := s.any fun r => r.1 ≤ n && n ≤ r.2

@[simp] theorem has_nil (n : Nat) : has [] n = false := rfl

@[simp] theorem has_cons (r : Nat × Nat) (s : Ranges) (n : Nat) :
    has (r :: s) n = ((r.1 ≤ n && n ≤ r.2) || has s n) := rfl

@[simp] theorem has_append (s t : Ranges) (n : Nat) : has (s ++ t) n = (has s n || has t n) := by
  simp [has]

/-- The ranges after `r`, each joined to the one before when nothing lies
between them. -/
def joinFrom (r : Nat × Nat) : Ranges → Ranges
  | [] => [r]
  | q :: rest =>
    if q.1 ≤ r.2 + 1 then joinFrom (r.1, max r.2 q.2) rest else r :: joinFrom q rest

/-- Ascending ranges with touching neighbours joined. -/
def join : Ranges → Ranges
  | [] => []
  | r :: rest => joinFrom r rest

/-- The ranges with `r` put before the first of them that does not start earlier. -/
def insert (r : Nat × Nat) : Ranges → Ranges
  | [] => [r]
  | q :: rest => if r.1 ≤ q.1 then r :: q :: rest else q :: insert r rest

/-- Any list of ranges in canonical form. -/
def canonical (s : Ranges) : Ranges := join (s.foldr insert [])

/-- The code points in either set. -/
def union (s t : Ranges) : Ranges := canonical (s ++ t)

/-- The code points in any of the sets. -/
def unions (ss : List Ranges) : Ranges := canonical ss.flatten

/-- The part of `t` within one range. -/
def clip (r : Nat × Nat) (t : Ranges) : Ranges :=
  (t.filter fun q => q.1 ≤ r.2 && r.1 ≤ q.2).map fun q => (max r.1 q.1, min r.2 q.2)

/-- The code points in both sets. -/
def inter (s t : Ranges) : Ranges := s.flatMap fun r => clip r t

/-- What ascending ranges leave out of `[start, last]`. -/
def gaps (start last : Nat) : Ranges → Ranges
  | [] => if start ≤ last then [(start, last)] else []
  | r :: rest =>
    (if start < r.1 then [(start, r.1 - 1)] else []) ++ gaps (max start (r.2 + 1)) last rest

/-- The code points up to `last` that are not in the set. -/
def compl (last : Nat) (s : Ranges) : Ranges := gaps 0 last s

/-- The code points of `s` that are not in `t`. -/
def diff (s t : Ranges) : Ranges := inter s (compl lastCodePoint t)

/-- The code points in exactly one of the sets. -/
def symm (s t : Ranges) : Ranges := union (diff s t) (diff t s)

end Ranges

/-- The value of a hexadecimal digit; digits above nine in capitals. -/
def hexDigitValue (c : Char) : Nat :=
  if c.isDigit then c.toNat - 0x30 else c.toNat - 0x37

/-- The number that hexadecimal digits denote. -/
def hexValue (cs : List Char) : Nat := cs.foldl (fun n c => 16 * n + hexDigitValue c) 0

/-- The entries of a table, each a list of numbers parted by `sep`. -/
def readWords (sep : Char) (text : String) : List (List Nat) :=
  (Text.wordsOf text.toList).map fun word => (Text.pieces [sep] word).map hexValue

/-- The ranges that a table's text lists. -/
def Ranges.ofText (text : String) : Ranges :=
  (readWords '-' text).map fun word => (word.headD 0, word.getLastD 0)

/-- A table with the loose names it goes by. -/
structure Named where
  names : List String
  table : String

/-- The table with this loose name. -/
def findNamed (entries : List Named) (name : String) : Option String :=
  (entries.find? fun n => n.names.contains name).map (·.table)

end Character
end Remedy
