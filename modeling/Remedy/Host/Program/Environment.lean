/-
# Running with other variables

`env` runs a program with some variables added or taken away; without a program it
prints those there are.
-/

import Remedy.Host.Program.Basic

namespace Remedy
namespace Host
namespace Program
namespace Environment

/-- A process with one variable set. -/
def set (p : Process) (name value : Octets) : Process :=
  { p with
    environment :=
      if (p.environment.lookup name).isSome then
        p.environment.map fun v => if v.1 = name then (name, value) else v
      else p.environment ++ [(name, value)] }

/-- A process without a variable. -/
def unset (p : Process) (name : Octets) : Process :=
  { p with environment := p.environment.filter (·.1 != name) }

/-- Takes assignments off arguments; the rest are a program and its arguments. -/
def assign (p : Process) : List Octets → Process × List Octets
  | [] => (p, [])
  | a :: rest =>
    if a.contains '=' then
      let name := a.takeWhile (· != '=')
      assign (set p name (a.drop (name.length + 1))) rest
    else (p, a :: rest)

/-- What arguments ask for: the process as it is to be, and what is to be run. -/
def ofArguments (name : Octets) (p : Process) : List Octets → Except Octets (Process × List Octets)
  | ['-', 'u'] :: x :: rest => ofArguments name (unset p x) rest
  | ['-', 'u'] :: [] =>
    .error (name ++ ": option requires an argument -- 'u'".toList ++ seeHelp name)
  | ['-', '-'] :: rest => .ok (assign p rest)
  | a :: rest =>
    if [['-'], ['-', 'i'], "--ignore-environment".toList].contains a then
      ofArguments name { p with environment := [] } rest
    else if isOption a then .error (name ++ ": ".toList ++ strange a ++ seeHelp name)
    else .ok (assign p (a :: rest))
  | [] => .ok (p, [])

/-- Prints the variables. -/
def print : Body := fun c m =>
  c.print (c.process.environment.flatMap fun v => Octets.line (v.1 ++ '=' :: v.2)) m

end Environment
end Program
end Host
end Remedy
