/-
# Variables

The parts of the shell that change what variables are, and `set`, which changes the
choices and the arguments as well.
-/

import Remedy.Host.Shell.Builtin.Basic

namespace Remedy
namespace Host
namespace Shell
namespace Builtin

/-- A name, and a value if one is assigned to it. -/
def assignment (a : Octets) : Octets × Option Octets :=
  let name := a.takeWhile (· != '=')
  (name, if name.length < a.length then some (a.drop (name.length + 1)) else none)

/-- Marks variables, which may be assigned at the same time; without arguments, or when
asked to, shows those that are marked. -/
def mark (word : String) (marked : State → List Octets) (mark : State → Octets → State) :
    Builtin := fun args s =>
  s.withOptions "p" args fun chosen names =>
    let s := s.finish 0
    if names.isEmpty || !chosen.isEmpty then
      s.print (s.shownVariables (word ++ " ").toList (marked s))
    else
      s.forEach names fun s a =>
        let (name, value?) := assignment a
        match value? with
        | some v => s.orAbort ((s.assign? name v).map (mark · name))
        | none =>
          if Reader.isName name then mark s name
          else s.abort (name ++ ": bad variable name".toList)

/-- Gives variables to programs. -/
def exportAll : Builtin :=
  mark "export" State.exported fun s x => { s with exported := x :: s.exported }

/-- Makes variables keep their values. -/
def readonly : Builtin :=
  mark "readonly" State.constants fun s x => { s with constants := x :: s.constants }

/-- Makes variables local; a dash stands for the choices. -/
def localise : Builtin := fun args s =>
  s.withOptions "" args fun _ names =>
    match s.locals with
    | none => s.abort "not in a function".toList
    | some _ =>
      (s.finish 0).forEach names fun s a =>
        let (name, value?) := assignment a
        if a = ['-'] then
          { s with
            locals := s.locals.map fun l => { l with options := some (l.options.getD s.options) } }
        else
          match value? with
          | some v => (s.keep name).orAbort ((s.keep name).assign? name v)
          | none =>
            if Reader.isName name then s.keep name
            else s.abort (name ++ ": bad variable name".toList)

/-- Forgets variables, or functions. -/
def unset : Builtin := fun args s =>
  s.withOptions "vf" args fun chosen names =>
    match chosen.getLast? with
    | some ('f', _) => { s.finish 0 with functions := s.functions.filter (!names.contains ·.1) }
    | _ => (s.finish 0).forEach names fun s a => s.orAbort (s.unset? (assignment a).1)

/-- Changes the choices and the arguments; without arguments, shows the variables. -/
def set : Builtin := fun args s =>
  if args.isEmpty then (s.finish 0).print (s.shownVariables [] (s.bindings.map (·.1)))
  else
    match Settings.ofArguments false s.options args with
    | .error why => s.abort why
    | .ok r =>
      let wasQuiet := r.options.has "monitor" && !s.options.has "monitor"
      let options := r.options.choose (r.options.has "monitor" && !wasQuiet) "monitor"
      let options :=
        if r.quiets then (options.choose false "xtrace").choose false "verbose" else options
      let s :=
        if wasQuiet then s.complain "can't access tty; job control turned off".toList else s
      let s := ({ s with options := options }.finish 0).print r.text
      if r.ended || !r.operands.isEmpty then
        { s with arguments := r.operands, optionIndex := 1, optionOffset := none }
      else s

end Builtin
end Shell
end Host
end Remedy
