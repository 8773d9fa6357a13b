/-
# Parts of the shell

A part of the shell takes its arguments and changes the state.  Most of them begin with
reading options: letters after a dash, some of which take an argument, until two dashes
or anything else ends them.
-/

import Remedy.Host.Shell.Getopts
import Remedy.Host.Shell.State

namespace Remedy
namespace Host
namespace Shell

/-- What a part of the shell does with its arguments. -/
abbrev Builtin := List Octets → State → State

/-- The options that letters and then arguments begin with, as far as a number of steps
goes, each with its argument; and the arguments that are left. -/
def optionsFrom (known : Octets) :
    Nat → Octets → List Octets → Except Octets (List (Char × Octets) × List Octets)
  | 0, _, args => .ok ([], args)
  | _ + 1, [], ['-', '-'] :: rest => .ok ([], rest)
  | n + 1, [], ('-' :: c :: cs) :: rest => optionsFrom known n (c :: cs) rest
  | _ + 1, [], args => .ok ([], args)
  | n + 1, c :: cs, args => do
    let (argument, cs, args) ←
      match Getopts.known? c known, cs, args with
      | none, _, _ => .error ("Illegal option -".toList ++ [c])
      | some false, _, _ => .ok ([], cs, args)
      | some true, [], [] => .error (Getopts.complaint "No arg for -" c)
      | some true, [], a :: rest => .ok (a, [], rest)
      | some true, cs, _ => .ok (cs, [], args)
    let (chosen, rest) ← optionsFrom known n cs args
    .ok ((c, argument) :: chosen, rest)

namespace State

/-- Reads the options off arguments and goes on with the letters and their arguments;
`known` has the letters there are, each with a colon if it takes an argument. -/
def withOptions (s : State) (known : String) (args : List Octets)
    (f : List (Char × Octets) → List Octets → State) : State :=
  match optionsFrom known.toList (args.flatten.length + args.length + 1) [] args with
  | .ok (chosen, rest) => f chosen rest
  | .error why => s.abort why

/-- Goes on with the number that an argument is. -/
def withNumber (s : State) (cs : Octets) (f : Nat → State) : State :=
  match number? cs with
  | some n => f n
  | none => s.abort (illegalNumber cs)

/-- Does something for each of some arguments, unless it has to be given up. -/
def forEach (s : State) (args : List Octets) (f : State → Octets → State) : State :=
  args.foldl (fun s a => if s.flow = .on then f s a else s) s

end State
end Shell
end Host
end Remedy
