/-
# Printing and testing

The parts of the shell that only print, or say what is true.
-/

import Remedy.Host.Program.Printf
import Remedy.Host.Shell.Builtin.Basic
import Remedy.Host.Shell.Condition

namespace Remedy
namespace Host
namespace Shell
namespace Builtin

/-- Ends with a status, whatever the arguments. -/
def always (status : Nat) : Builtin := fun _ s => s.finish status

/-- Prints the arguments. -/
def echo : Builtin := fun args s => (s.finish 0).print (Program.shellEcho args)

/-- Prints arguments in a format. -/
def printf : Builtin := fun args s =>
  s.withOptions "" args fun _ operands =>
    match operands with
    | [] => s.abort "usage: printf format [arg ...]".toList
    | format :: args =>
      let p := Program.Printf.run true format args
      ((p.complaints.foldl State.complain s).print p.text).finish p.status

/-- Says whether a condition holds. -/
def test (isBracket : Bool) : Builtin := fun args s =>
  let (status, m) := Condition.body isBracket ⟨s.caller, args, s.process⟩ s.machine
  { s with machine := m }.finish status

/-- Prints the time that has been used, of which there is hardly any. -/
def times : Builtin := fun _ s =>
  (s.finish 0).print "0m0.000000s 0m0.000000s\n0m0.000000s 0m0.000000s\n".toList

end Builtin
end Shell
end Host
end Remedy
