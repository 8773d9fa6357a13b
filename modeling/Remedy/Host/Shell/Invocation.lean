/-
# Starting a shell

What the arguments of a shell ask for: options, and where the script comes from.
-/

import Remedy.Host.Shell.Options

namespace Remedy
namespace Host
namespace Shell

/-- Where a script comes from. -/
inductive Script where
  /-- It is an argument itself. -/
  | text (cs : Octets)
  | input
  | file (path : Octets)

/-- What a shell is asked to do. -/
structure Invocation where
  options : Options
  source : Script
  /-- What complaints begin with. -/
  script : Octets
  arguments : List Octets
  /-- Whether it wants a terminal, which it does not get. -/
  wantsTerminal : Bool

/-- What the arguments of a shell ask for that is called by some name. -/
def Invocation.ofArguments (name : Octets) (args : List Octets) : Except Octets Invocation := do
  let s ← Settings.ofArguments true .plain args
  let wantsTerminal := s.options.has "interactive" || s.options.has "monitor"
  let options := s.options.choose false "monitor"
  match s.takesScript, s.operands with
  | true, [] => .error "-c requires an argument".toList
  | true, [text] => return ⟨options, .text text, name, [], wantsTerminal⟩
  | true, text :: script :: rest => return ⟨options, .text text, script, rest, wantsTerminal⟩
  | false, operands =>
    match operands with
    | path :: rest =>
      if options.has "stdin" then return ⟨options, .input, name, operands, wantsTerminal⟩
      else return ⟨options, .file path, path, rest, wantsTerminal⟩
    | [] => return ⟨options.choose true "stdin", .input, name, [], wantsTerminal⟩

end Shell
end Host
end Remedy
