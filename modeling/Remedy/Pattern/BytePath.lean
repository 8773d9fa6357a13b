/-
# Characters as paths of bytes

A range of characters becomes paths of byte ranges, one for every stretch of
characters that are encoded alike: a character of the range is encoded by bytes
of which each lies in its range of one of the paths.
-/

import Remedy.Character.Ranges

namespace Remedy
namespace Pattern

open Character (Ranges)

/-- A stretch of bytes. -/
abbrev ByteRange := Nat × Nat

/-- The bytes of a code that takes `more` bytes after its first. -/
def bytesOf (more code : Nat) : List Nat :=
  match more with
  | 0 => [code]
  | more =>
    let leading := if more = 1 then 0xC0 else if more = 2 then 0xE0 else 0xF0
    (leading + code / Nat.pow 64 more)
      :: ((List.range more).reverse.map fun i => 0x80 + code / Nat.pow 64 i % 64)

/-- The paths of byte ranges for the codes from `low` to `high`, all of which
take `more` bytes after the first.  A stretch that is not whole below one of its
bytes is cut there; `level` is the number of bytes below. -/
def pathsWithin (more : Nat) : Nat → Nat → Nat → Nat → List (List ByteRange)
  | 0, _, low, high => [(bytesOf more low).zip (bytesOf more high)]
  | budget + 1, level, low, high =>
    if level = 0 then [(bytesOf more low).zip (bytesOf more high)]
    else
      let block := Nat.pow 64 level
      if low / block = high / block then pathsWithin more budget (level - 1) low high
      else if low % block ≠ 0 then
        let stop := (low / block + 1) * block - 1
        pathsWithin more budget (level - 1) low stop ++ pathsWithin more budget level (stop + 1) high
      else if high % block ≠ block - 1 then
        let start := high / block * block
        pathsWithin more budget level low (start - 1) ++ pathsWithin more budget (level - 1) start high
      else [(bytesOf more low).zip (bytesOf more high)]

/-- The stretches of codes that are encoded in the same number of bytes: that
number less one, and the first and last code.  Surrogates are not encoded. -/
def encodedAlike : List (Nat × Nat × Nat) :=
  [(0, 0, 0x7F), (1, 0x80, 0x7FF), (2, 0x800, 0xD7FF), (2, 0xE000, 0xFFFF),
    (3, 0x10000, 0x10FFFF)]

/-- The paths for a range of codes, in order. -/
def pathsOf (r : Nat × Nat) : List (List ByteRange) :=
  encodedAlike.flatMap fun (more, first, last) =>
    let low := max r.1 first
    let high := min r.2 last
    if low ≤ high then pathsWithin more 16 more low high else []

/-- The paths for a set. -/
def pathsOfSet (s : Ranges) : List (List ByteRange) := s.flatMap pathsOf

end Pattern
end Remedy
