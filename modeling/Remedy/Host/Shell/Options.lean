/-
# The choices of a shell

What `set` can choose has a name, and mostly a letter as well.  The same letters are
options of a shell that is started.
-/

import Remedy.Host.Path

namespace Remedy
namespace Host
namespace Shell

/-- The choices that have been made, by their names. -/
structure Options where
  chosen : List String
  deriving Repr

namespace Options

/-- The names of all choices, in order, with their letters. -/
def all : List (String × Option Char) :=
  [("errexit", some 'e'), ("noglob", some 'f'), ("ignoreeof", some 'I'), ("interactive", some 'i'),
    ("monitor", some 'm'), ("noexec", some 'n'), ("stdin", some 's'), ("xtrace", some 'x'),
    ("verbose", some 'v'), ("vi", some 'V'), ("emacs", some 'E'), ("noclobber", some 'C'),
    ("allexport", some 'a'), ("notify", some 'b'), ("nounset", some 'u'), ("privileged", some 'p'),
    ("nolog", none), ("debug", none)]

/-- What a shell starts with. -/
def plain : Options := ⟨[]⟩

/-- Whether a choice has been made. -/
def has (o : Options) (name : String) : Bool := o.chosen.contains name

/-- The options after a choice. -/
def choose (o : Options) (on : Bool) (name : String) : Options :=
  let others := o.chosen.filter (· != name)
  ⟨if on then name :: others else others⟩

/-- The name of the choice that has a letter. -/
def named? (letter : Char) : Option String :=
  (all.find? fun c => c.2 = some letter).map (·.1)

/-- The letters of the choices that have been made. -/
def shown (o : Options) : Octets :=
  all.filterMap fun (name, letter) => if o.has name then letter else none

/-- All choices and whether they have been made, as a table. -/
def table (o : Options) : Octets :=
  ("Current option settings\n" ++ String.join (all.map fun (name, _) =>
    name ++ "".pushn ' ' (16 - name.length) ++ (if o.has name then "on\n" else "off\n"))).toList

/-- The commands that make the same choices. -/
def commands (o : Options) : Octets :=
  (String.join (all.map fun (name, _) =>
    "set " ++ (if o.has name then "-o " else "+o ") ++ name ++ "\n")).toList

end Options

/-- What the arguments that begin with a sign come to. -/
structure Settings where
  options : Options
  /-- Whether the next operand is a script. -/
  takesScript : Bool
  /-- Whether tracing and the like are to be given up. -/
  quiets : Bool
  /-- What is to be printed. -/
  text : Octets
  /-- The operands, if a dash has announced that there may be none of them. -/
  ended : Bool
  operands : List Octets

namespace Settings

/-- Takes the letters of one argument in; where `o` asks for a name, it is taken from
the further arguments. -/
def letters (starting on : Bool) (s : Settings) :
    Octets → List Octets → Except Octets (Settings × List Octets)
  | [], args => .ok (s, args)
  | 'o' :: more, args =>
    match args with
    | [] =>
      letters starting on
        { s with text := s.text ++ if on then s.options.table else s.options.commands } more []
    | name :: rest =>
      if Options.all.any fun c => c.1.toList = name then
        letters starting on { s with options := s.options.choose on (String.ofList name) } more rest
      else .error ("Illegal option -o ".toList ++ name)
  | c :: more, args =>
    if starting && c = 'c' then letters starting on { s with takesScript := true } more args
    else if starting && c = 'l' then letters starting on s more args
    else
      match Options.named? c with
      | some name => letters starting on { s with options := s.options.choose on name } more args
      | none => .error ("Illegal option -".toList ++ [c])

/-- Reads arguments, those of a shell that is started or those of `set`. -/
def read (starting : Bool) : Nat → Settings → List Octets → Except Octets Settings
  | 0, s, args => .ok { s with operands := args }
  | _ + 1, s, [] => .ok s
  | n + 1, s, a :: rest =>
    match a with
    | ['-'] => .ok { s with quiets := !starting, ended := false, operands := rest }
    | ['-', '-'] => .ok { s with ended := true, operands := rest }
    | '-' :: cs => do
      let (s, rest) ← letters starting true s cs rest
      read starting n s rest
    | '+' :: cs => do
      let (s, rest) ← letters starting false s cs rest
      read starting n s rest
    | _ => .ok { s with operands := a :: rest }

/-- What arguments come to, from some options on. -/
def ofArguments (starting : Bool) (o : Options) (args : List Octets) : Except Octets Settings :=
  read starting (args.length + 1) ⟨o, false, false, [], false, []⟩ args

end Settings
end Shell
end Host
end Remedy
