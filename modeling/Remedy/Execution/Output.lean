/-
# Output of commands

A command may write without end, and only the last of it is told.  `readTail`
is what a reader with bounded memory keeps of what it reads, and `tail` is the
text that is shown of that.  A text is cut where a character begins.
-/

import Remedy.Text.Pieces
import Remedy.Text.Utf8

namespace Remedy
namespace Execution
namespace Output

/-- `OUTPUT_TAIL_BYTES`: how many bytes of output are shown. -/
def shown : Nat := 2048

/-- How many bytes are read at a time. -/
def chunkSize : Nat := 4096

/-- What a further read gives: bytes, which are none at the end, or a failure. -/
inductive Read where
  | bytes (chunk : List UInt8)
  | failure
  deriving DecidableEq, Repr

/-- What is kept after a further chunk: all, unless that is more than twice what
is shown. -/
def keep (kept chunk : List UInt8) : List UInt8 :=
  let all := kept ++ chunk
  if 2 * shown < all.length then all.drop (all.length - shown) else all

/-- What is kept in the end, when reading goes on up to the end or a failure. -/
def readOn (kept : List UInt8) : List Read → List UInt8
  | [] => kept
  | .failure :: _ => kept
  | .bytes [] :: _ => kept
  | .bytes (b :: chunk) :: rest => readOn (keep kept (b :: chunk)) rest

/-- `read_tail`: what is kept of an output, if there is one to read. -/
def readTail : Option (List Read) → List UInt8
  | none => []
  | some reads => readOn [] reads

/-- Bytes in chunks of a positive size. -/
def chunks (size : Nat) (positive : 0 < size) (bytes : List UInt8) : List (List UInt8) :=
  if _h : bytes = [] then []
  else bytes.take size :: chunks size positive (bytes.drop size)
termination_by bytes.length
decreasing_by
  have := List.length_pos_iff.2 _h
  simp only [List.length_drop]
  omega

/-- What is kept of bytes that are read in full chunks up to their end. -/
def kept (bytes : List UInt8) : List UInt8 :=
  readTail (some ((chunks chunkSize (by decide) bytes).map Read.bytes ++ [.bytes []]))

/-- Whether a byte of a text goes on with a character that has begun. -/
def continues (b : UInt8) : Bool :=
  let n := b.toNat
  0x80 ≤ n && n < 0xC0

/-- The first place from a given one on where a character begins or the text ends. -/
def boundaryFrom (bytes : List UInt8) (start : Nat) : Nat :=
  start + ((bytes.drop start).takeWhile continues).length

/-- A text from a place among its bytes on, unless that is within a character or
past the end. -/
def sliceFrom : Nat → List Char → Option (List Char)
  | 0, cs => some cs
  | _ + 1, [] => none
  | n + 1, c :: rest =>
    if c.utf8Size ≤ n + 1 then sliceFrom (n + 1 - c.utf8Size) rest else none

/-- `output_tail`: what is shown of output: its end, and a mark in front if there is more. -/
def tail (bytes : List UInt8) : String :=
  let cs := Text.trimEnd (Text.Utf8.decodeLossy bytes)
  let encoded := Text.Utf8.encode cs
  String.ofList <|
    if encoded.length ≤ shown then cs
    else
      ['.', '.', '.'] ++ (sliceFrom (boundaryFrom encoded (encoded.length - shown)) cs).getD []

end Output
end Execution
end Remedy
