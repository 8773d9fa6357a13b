/-
# Bytes as characters, and paths of the file system

Programs read and write bytes, and all that means something to them is ASCII.
So that they can be described by characters, a byte is written here as the
character of the same number; text outside ASCII takes several of them.

A path is a sequence of bytes, which need not be text.  `shown` is how it
appears in messages.
-/

import Remedy.Text.Utf8

namespace Remedy
namespace Host

/-- Bytes, each as the character of its number. -/
abbrev Octets := List Char

namespace Octets

/-- Bytes as characters. -/
def ofBytes (bytes : List UInt8) : Octets := bytes.map fun b => Char.ofNat b.toNat

/-- Characters as the bytes they stand for. -/
def toBytes (cs : Octets) : List UInt8 := cs.map fun c => UInt8.ofNat c.toNat

/-- The bytes of a text. -/
def ofText (s : String) : Octets := ofBytes (Text.Utf8.encode s.toList)

/-- The decimal text of a number. -/
def ofNat (n : Nat) : Octets := Nat.toDigits 10 n

/-- The decimal text of a number with a sign. -/
def ofInt : Int → Octets
  | .ofNat n => ofNat n
  | .negSucc n => '-' :: ofNat (n + 1)

/-- A line: the text and its end. -/
def line (cs : Octets) : Octets := cs ++ ['\n']

end Octets

/-- A path. -/
structure Path where
  bytes : List UInt8
  deriving DecidableEq, Repr

namespace Path

/-- The path that a text is. -/
def ofText (s : String) : Path := ⟨Text.Utf8.encode s.toList⟩

/-- The text that a path is, if it is one. -/
def text? (p : Path) : Option String := (Text.Utf8.decode? p.bytes).map String.ofList

/-- A path in a message. -/
def shown (p : Path) : String := String.ofList (Text.Utf8.decodeLossy p.bytes)

/-- The bytes between slashes, the current one reversed. -/
def partsFrom : List UInt8 → List UInt8 → List (List UInt8)
  | part, [] => [part.reverse]
  | part, b :: rest =>
    if b = 0x2F then part.reverse :: partsFrom [] rest else partsFrom (b :: part) rest

/-- The names along a path; slashes in a row count as one. -/
def parts (p : Path) : List (List UInt8) := (partsFrom [] p.bytes).filter fun part => !part.isEmpty

/-- Whether a path starts from the root. -/
def isAbsolute (p : Path) : Bool := p.bytes.head? == some 0x2F

/-- Whether a path ends in a slash, so that it can only be a directory. -/
def endsInSlash (p : Path) : Bool := p.bytes.getLast? == some 0x2F

end Path

end Host
end Remedy
