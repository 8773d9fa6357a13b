/-
# Waiting

A duration is a number, with a fraction or without, and perhaps a unit; several of
them are added up.
-/

import Remedy.Host.Program.Real

namespace Remedy
namespace Host
namespace Program

/-- A time to wait. -/
inductive Duration where
  | micros (n : Nat)
  | endless

namespace Duration

/-- A number of seconds, with what follows it, as a duration. -/
def ofSeconds? (r : Real) (unit : Nat) : Option Duration :=
  match r with
  | .nan _ => none
  | .infinite negative => if negative then none else some .endless
  | .finite negative digits base power =>
    if digits = 0 then some (.micros 0)
    else if negative then none
    else
      let (n, d) := Real.ratio digits base power
      some (.micros ((n * unit * 1000000 + d - 1) / d))

/-- The seconds in a unit. -/
def unit? : Octets → Option Nat
  | [] | ['s'] => some 1
  | ['m'] => some 60
  | ['h'] => some 3600
  | ['d'] => some 86400
  | _ => none

/-- The duration that a text denotes. -/
def ofText? (cs : Octets) : Option Duration := do
  let (r, rest) ← Real.leading? cs
  ofSeconds? r (← unit? rest)

end Duration

/-- The machine after a duration. -/
def wait (m : Machine) : Duration → Machine
  | .micros n => m.pass n
  | .endless => m.never

/-- Waits. -/
def sleep : Body := fun c m =>
  let (options, operands) := divided c.args
  let wrong := operands.filter fun a => (Duration.ofText? a).isNone
  match options, operands, wrong with
  | o :: _, _, _ => c.refuse 1 (strange o ++ seeHelp c.caller) m
  | [], [], _ => c.refuse 1 ("missing operand".toList ++ seeHelp c.caller) m
  | [], operands, [] => (0, (operands.filterMap Duration.ofText?).foldl wait m)
  | [], _, wrong =>
    let m := wrong.foldl (fun m a =>
      (c.refuse 1 ("invalid time interval ".toList ++ quoted a) m).2) m
    (1, m.complain c.process ((seeHelp c.caller).drop 1))

end Program
end Host
end Remedy
