/-
# Masks of permissions

A mask says which permissions new files do not get: three bits each for the user, the
group and others.  It is given as an octal number, or by clauses that say which
permissions are granted, as in `u=rwx,g-w`.
-/

import Remedy.Host.Path

namespace Remedy
namespace Host
namespace Shell
namespace Mask

/-- What a clause does with permissions. -/
inductive Change where
  | set
  | grant
  | deny

/-- The change that a sign stands for. -/
def change? : Char → Option Change
  | '=' => some .set
  | '+' => some .grant
  | '-' => some .deny
  | _ => none

/-- Those that a letter means: a bit for each. -/
def who? : Char → Option Nat
  | 'a' => some 0o111
  | 'u' => some 0o100
  | 'g' => some 0o010
  | 'o' => some 0o001
  | _ => none

/-- The permissions that a letter means, where some are granted already and some were
at first. -/
def permission? (first granted : Nat) : Char → Option Nat
  | 'r' => some 4
  | 'w' => some 2
  | 'x' => some 1
  | 'X' => some (if first &&& 0o111 = 0 then 0 else 1)
  | 's' => some 0
  | 'u' => some (granted / 64 % 8)
  | 'g' => some (granted / 8 % 8)
  | 'o' => some (granted % 8)
  | _ => none

/-- The permissions after a change, for some of those there are. -/
def apply (granted who permissions : Nat) : Change → Nat
  | .set => granted ^^^ (granted &&& (who * 7)) ||| (who * permissions)
  | .grant => granted ||| (who * permissions)
  | .deny => granted ^^^ (granted &&& (who * permissions))

/-- Where a reader of clauses stands. -/
inductive Reading where
  /-- Among those who are meant; the first clause has to be there. -/
  | who (isFirst : Bool) (bits : Nat)
  | permissions (bits : Nat) (change : Change) (value : Nat)

/-- The permissions that clauses grant. -/
def granted (first : Nat) : Nat → Reading → Octets → Option Nat
  | g, .who isFirst bits, [] => if bits = 0 ∧ !isFirst then some g else none
  | g, .permissions bits c value, [] => some (apply g bits value c)
  | g, .who isFirst bits, ch :: rest =>
    match who? ch, change? ch with
    | some b, _ => granted first g (.who isFirst (bits ||| b)) rest
    | none, some c => granted first g (.permissions (if bits = 0 then 0o111 else bits) c 0) rest
    | none, none => none
  | g, .permissions bits c value, ch :: rest =>
    match change? ch with
    | some d => granted first (apply g bits value c) (.permissions bits d 0) rest
    | none =>
      if ch = ',' then granted first (apply g bits value c) (.who false 0) rest
      else
        match permission? first g ch with
        | some v => granted first g (.permissions bits c (value ||| v)) rest
        | none => none

/-- The mask that a text asks for. -/
def ofText (mask : Nat) (cs : Octets) : Except Octets Nat :=
  if cs.isEmpty then .ok mask
  else if cs.head?.any Char.isDigit then
    if cs.all fun c => '0' ≤ c && c ≤ '7' then
      .ok (cs.foldl (fun n c => 8 * n + (c.toNat - 48)) 0 % 0o1000)
    else .error ("Illegal number: ".toList ++ cs)
  else
    match granted (0o777 - mask) (0o777 - mask) (.who true 0) cs with
    | some g => .ok (0o777 - g)
    | none => .error ("Illegal mode: ".toList ++ cs)

/-- A mask as a number. -/
def numeral (mask : Nat) : Octets :=
  let ds := Nat.toDigits 8 mask
  List.replicate (4 - ds.length) '0' ++ ds

/-- A mask as clauses. -/
def clauses (mask : Nat) : Octets :=
  let one (name : Char) (bits : Nat) : Octets :=
    [name, '='] ++ (if bits &&& 4 = 0 then ['r'] else []) ++ (if bits &&& 2 = 0 then ['w'] else [])
      ++ (if bits &&& 1 = 0 then ['x'] else [])
  one 'u' (mask / 64 % 8) ++ [','] ++ one 'g' (mask / 8 % 8) ++ [','] ++ one 'o' (mask % 8)

end Mask
end Shell
end Host
end Remedy
