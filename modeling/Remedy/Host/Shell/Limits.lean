/-
# Limits of a process

What a process may use of each resource: up to a soft limit, which it may raise to
the hard one.  A hard limit is only lowered.
-/

import Remedy.Host.Program.Basic

namespace Remedy
namespace Host
namespace Shell

/-- A limited resource. -/
structure Resource where
  letter : Char
  /-- What it is called, with its unit. -/
  title : String
  /-- How much one unit is. -/
  unit : Nat
  /-- The limit that is met at first. -/
  initial : Option Nat

/-- The limits of each resource, by its letter: the soft one and the hard one.  No
number means no limit. -/
structure Limits where
  table : List (Char × Option Nat × Option Nat)

namespace Limits

/-- The resources. -/
def resources : List Resource :=
  [⟨'t', "time(seconds)", 1, none⟩, ⟨'f', "file(blocks)", 512, none⟩,
    ⟨'d', "data(kbytes)", 1024, none⟩, ⟨'s', "stack(kbytes)", 1024, some 8388608⟩,
    ⟨'c', "coredump(blocks)", 512, none⟩, ⟨'m', "memory(kbytes)", 1024, none⟩,
    ⟨'l', "locked memory(kbytes)", 1024, some 8388608⟩, ⟨'p', "process", 1, none⟩,
    ⟨'n', "nofiles", 1, some 1048576⟩, ⟨'v', "vmemory(kbytes)", 1024, none⟩,
    ⟨'w', "locks", 1, none⟩, ⟨'r', "rtprio", 1, some 0⟩]

/-- The limits that are met at first; only the soft limit of the stack is not its
hard limit. -/
def initial : Limits :=
  ⟨resources.map fun r => (r.letter, r.initial, if r.letter = 's' then none else r.initial)⟩

/-- The limits of a resource. -/
def of (l : Limits) (letter : Char) : Option Nat × Option Nat :=
  (l.table.lookup letter).getD (none, none)

/-- Whether a limit is at most another one. -/
def atMost (a b : Option Nat) : Bool :=
  match a, b with
  | _, none => true
  | none, some _ => false
  | some a, some b => a ≤ b

/-- What is asked of the limits. -/
structure Wish where
  soft : Bool
  hard : Bool
  all : Bool
  letter : Char

/-- A limit as it is shown. -/
def shown (l : Limits) (w : Wish) (r : Resource) : Octets :=
  let (soft, hard) := l.of r.letter
  match if w.soft then soft else hard with
  | none => "unlimited\n".toList
  | some n => Octets.line (Octets.ofNat (n / r.unit))

/-- The amount that a text names. -/
def amount? (r : Resource) (cs : Octets) : Option (Option Nat) :=
  if cs = "unlimited".toList then some none
  else if cs.all Char.isDigit then
    let n := Text.digitsValue cs % UInt64.size * r.unit % UInt64.size
    some (if n = UInt64.size - 1 then none else some n)
  else none

/-- Sets limits of a resource. -/
def set (l : Limits) (w : Wish) (amount : Option Nat) : Except String Limits :=
  let (soft, hard) := l.of w.letter
  let soft' := if w.soft then amount else soft
  let hard' := if w.hard then amount else hard
  if !atMost soft' hard' then .error "error setting limit (Invalid argument)"
  else if !atMost hard' hard then .error "error setting limit (Operation not permitted)"
  else .ok ⟨(w.letter, soft', hard') :: l.table.filter (·.1 != w.letter)⟩

/-- The resource that is asked about. -/
def resource (w : Wish) : Resource :=
  (resources.find? fun r => r.letter = w.letter).getD ⟨'f', "file(blocks)", 512, none⟩

/-- Does what is asked: shows limits, or sets them. -/
def apply (l : Limits) (w : Wish) (operands : List Octets) : Except Octets (Octets × Limits) :=
  match operands with
  | [] =>
    if w.all then
      .ok (resources.flatMap fun r =>
        (r.title ++ "".pushn ' ' (20 - r.title.length) ++ " ").toList ++ l.shown w r, l)
    else .ok (l.shown w (resource w), l)
  | a :: more =>
    if w.all || !more.isEmpty then .error "too many arguments".toList
    else
      match amount? (resource w) a with
      | none => .error "bad number".toList
      | some n =>
        match l.set w n with
        | .ok l => .ok ([], l)
        | .error e => .error e.toList

end Limits
end Shell
end Host
end Remedy
