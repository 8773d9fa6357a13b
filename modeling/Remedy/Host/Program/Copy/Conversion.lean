/-
# Conversions of what is copied

What becomes of the bytes on their way: other codes, other cases, swapped pairs, and
lines that are filled up to a size or have their blanks taken off.
-/

import Remedy.Host.Program.Copy.Ebcdic
import Remedy.Host.Program.Copy.Operands

namespace Remedy
namespace Host
namespace Program
namespace Copy

/-- Bytes with each two exchanged; a last single one stays. -/
def swapped : Octets → Octets
  | a :: b :: rest => b :: a :: swapped rest
  | cs => cs

/-- Lines as blocks of a size, filled with blanks; `column` is the place in the current
line.  What is too long for a block is left out. -/
def blocks (size : Nat) (blank newline : Char) : Nat → Octets → Octets
  | column, [] => if column = 0 then [] else List.replicate (size - column) blank
  | column, c :: cs =>
    if c = newline then List.replicate (size - column) blank ++ blocks size blank newline 0 cs
    else if column < size then c :: blocks size blank newline (column + 1) cs
    else blocks size blank newline (column + 1) cs

/-- How many lines are too long for a block. -/
def truncated (size : Nat) (newline : Char) : Nat → Octets → Nat
  | _, [] => 0
  | column, c :: cs =>
    if c = newline then truncated size newline 0 cs
    else (if column = size then 1 else 0) + truncated size newline (column + 1) cs

/-- Blocks as lines without the blanks at their ends, as far as a number of blocks
goes. -/
def lines (size : Nat) (blank newline : Char) : Nat → Octets → Octets
  | 0, _ => []
  | n + 1, cs =>
    if cs.isEmpty then []
    else
      ((cs.take size).reverse.dropWhile (· = blank)).reverse ++ newline ::
        lines size blank newline n (cs.drop size)

namespace Order

/-- What becomes of a single byte. -/
def translated (o : Order) (c : Char) : Char :=
  let c := if o.conversions.contains "ascii" then ofEbcdic c else c
  let c := if o.conversions.contains "ucase" then c.toUpper
    else if o.conversions.contains "lcase" then c.toLower else c
  if o.conversions.contains "ebcdic" then toEbcdic c
  else if o.conversions.contains "ibm" then toIbm c
  else c

/-- The blank and the end of a line as they are written. -/
def spacing (o : Order) : Char × Char :=
  if o.conversions.any fun c => ["ebcdic", "ibm"].contains c then
    (toEbcdic ' ', toEbcdic '\n')
  else (' ', '\n')

/-- A block filled up to its size, if that is asked for. -/
def filled (o : Order) (block : Octets) : Octets :=
  if o.conversions.contains "sync" then
    let isLined := o.converts "block" || o.converts "unblock"
    block ++ List.replicate (o.readSize - block.length) (if isLined then ' ' else '\x00')
  else block

/-- What becomes of all that is read, before lines are made. -/
def prepared (o : Order) (cs : Octets) : Octets :=
  let cs := cs.map o.translated
  if o.conversions.contains "swab" then swapped cs else cs

/-- What becomes of all that is read. -/
def converted (o : Order) (cs : Octets) : Octets :=
  let cs := o.prepared cs
  let (blank, newline) := o.spacing
  if o.converts "block" then blocks o.lineSize blank newline 0 cs
  else if o.converts "unblock" then lines o.lineSize blank newline (cs.length + 1) cs
  else cs

/-- How many lines are cut. -/
def truncations (o : Order) (cs : Octets) : Nat :=
  if o.converts "block" then truncated o.lineSize o.spacing.2 0 (o.prepared cs) else 0

end Order
end Copy
end Program
end Host
end Remedy
