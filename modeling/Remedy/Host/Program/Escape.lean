/-
# Backslash sequences

What a backslash and the characters after it stand for.  The programs that know
such sequences differ a little in which, so the differences are parameters.
-/

import Remedy.Host.Path

namespace Remedy
namespace Host
namespace Program

/-- Which sequences are known beyond the common ones. -/
structure Escapes where
  /-- Up to three octal digits may follow a zero. -/
  longZero : Bool
  /-- Hexadecimal digits may be given. -/
  extended : Bool
  /-- One sequence ends all output. -/
  ends : Bool

namespace Escapes

/-- Where a reader stands. -/
inductive Reading where
  | plain
  | backslash
  | octal (value left : Nat)
  | hexadecimal (value : Option Nat) (left : Nat)

/-- The character that a letter after a backslash stands for. -/
def letter? : Char → Option Char
  | 'a' => some '\x07'
  | 'b' => some '\x08'
  | 'e' => some '\x1b'
  | 'f' => some '\x0c'
  | 'n' => some '\n'
  | 'r' => some '\r'
  | 't' => some '\t'
  | 'v' => some '\x0b'
  | '\\' => some '\\'
  | _ => none

/-- The value of an octal digit. -/
def octal? (c : Char) : Option Nat := if '0' ≤ c ∧ c ≤ '7' then some (c.toNat - 48) else none

/-- The value of a hexadecimal digit. -/
def hexadecimal? (c : Char) : Option Nat :=
  if '0' ≤ c ∧ c ≤ '9' then some (c.toNat - 48)
  else if 'a' ≤ c ∧ c ≤ 'f' then some (c.toNat - 87)
  else if 'A' ≤ c ∧ c ≤ 'F' then some (c.toNat - 55)
  else none

/-- The byte of a number. -/
def byte (n : Nat) : Char := Char.ofNat (n % 256)

/-- A character outside every sequence. -/
def plain (c : Char) : Octets × Option Reading :=
  if c = '\\' then ([], some .backslash) else ([c], some .plain)

/-- What a character after a backslash stands for; without a reading, output
ends. -/
def afterBackslash (e : Escapes) (c : Char) : Octets × Option Reading :=
  if c = 'c' ∧ e.ends then ([], none)
  else if c = '0' ∧ e.longZero then ([], some (.octal 0 3))
  else if c = 'x' ∧ e.extended then ([], some (.hexadecimal none 2))
  else
    match octal? c, letter? c with
    | some n, _ => ([], some (.octal n 2))
    | none, some d => ([d], some .plain)
    | none, none => (['\\', c], some .plain)

/-- What has been read of a sequence when it ends. -/
def rest : Reading → Octets
  | .plain => []
  | .backslash => ['\\']
  | .octal value _ => [byte value]
  | .hexadecimal none _ => ['\\', 'x']
  | .hexadecimal (some value) _ => [byte value]

/-- A further character. -/
def next (e : Escapes) (r : Reading) (c : Char) : Octets × Option Reading :=
  let restart := (rest r ++ (plain c).1, (plain c).2)
  match r with
  | .plain => plain c
  | .backslash => e.afterBackslash c
  | .octal value left =>
    match octal? c, left with
    | some n, left + 1 => ([], some (.octal (8 * value + n) left))
    | _, _ => restart
  | .hexadecimal value left =>
    match hexadecimal? c, left with
    | some n, left + 1 => ([], some (.hexadecimal (some (16 * value.getD 0 + n)) left))
    | _, _ => restart

/-- What a text stands for from some reading on, and whether output ends. -/
def decodeFrom (e : Escapes) : Reading → Octets → Octets × Bool
  | r, [] => (rest r, false)
  | r, c :: cs =>
    match e.next r c with
    | (out, none) => (out, true)
    | (out, some r) =>
      let (more, ended) := decodeFrom e r cs
      (out ++ more, ended)

/-- What a text stands for, and whether output ends there. -/
def decode (e : Escapes) (cs : Octets) : Octets × Bool := e.decodeFrom .plain cs

end Escapes
end Program
end Host
end Remedy
