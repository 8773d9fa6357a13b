/-
# Leaving

The parts of the shell that say where it goes on, and `shift`, which moves the arguments
up.
-/

import Remedy.Host.Shell.Builtin.Basic

namespace Remedy
namespace Host
namespace Shell
namespace Builtin

/-- Leaves the shell with a status, or with the one that there was before a trap. -/
def exit : Builtin := fun args s =>
  match args with
  | [] => s.exit (s.interrupted.getD s.status)
  | a :: _ => s.withNumber a s.exit

/-- Leaves a function or a file. -/
def leave : Builtin := fun args s =>
  match args with
  | [] => { s with flow := .leaveFunction false }
  | a :: _ => s.withNumber a fun n => { s.finish n with flow := .leaveFunction true }

/-- Leaves some of the loops around, or goes to the next round of one of them. -/
def leaveLoops (flow : Nat → Flow) : Builtin := fun args s =>
  let go (n : Nat) : State :=
    let n := min n s.loops
    if n = 0 then s.finish 0 else { s.finish 0 with flow := flow n }
  match args with
  | [] => go 1
  | a :: _ => s.withNumber a fun n => if n = 0 then s.abort (State.illegalNumber a) else go n

/-- Drops some of the arguments. -/
def shift : Builtin := fun args s =>
  let go (n : Nat) : State :=
    if s.arguments.length < n then s.abort "can't shift that many".toList
    else
      { s.finish 0 with
        arguments := s.arguments.drop n, optionIndex := 1, optionOffset := none }
  match args with
  | [] => go 1
  | a :: _ => s.withNumber a go

end Builtin
end Shell
end Host
end Remedy
