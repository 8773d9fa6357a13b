/-
# Commands

A template is a program and its arguments.  The placeholder stands for the name
of a service, in any of them and any number of times; a template without one
gets the name as a further last argument.  The name goes into whole arguments:
whatever it contains, it never becomes a second argument or a second command.

An action is what to do about one alert: a template bound to the service it is
to be run for.
-/

import Remedy.Dispatch.Identifier
import Remedy.Fatal
import Remedy.Text.Pieces

namespace Remedy
namespace Command

/-- `SERVICE_PLACEHOLDER`: stands for the name of the service. -/
def placeholder : String := "{service}"

/-- The command that restarts a service unless another is configured. -/
def defaultCommand : String := "docker compose restart {service}"

/-- `CommandTemplate`: a program and its arguments, with placeholders. -/
structure Template where
  program : String
  args : List String
  deriving DecidableEq, Repr

namespace Template

/-- The template of `defaultCommand`. -/
def standard : Template := ⟨"docker", ["compose", "restart", placeholder]⟩

/-- The tokens of a template, the program first. -/
def tokens (t : Template) : List String := t.program :: t.args

/-- `parse`: the template that a command line describes: its words, without any quoting. -/
def parse (command : String) : Except Config.Error Template :=
  match Text.words command with
  | program :: args => .ok ⟨program, args⟩
  | [] => .error (.invalid "RUNBOOK_COMMAND" command "command is empty")

/-- The tokens with a blank between each two. -/
def text (t : Template) : String := " ".intercalate t.tokens

/-- Whether a token holds a placeholder. -/
def holdsPlaceholder (token : String) : Bool :=
  Text.occurs placeholder.toList token.toList

/-- `has_placeholder`: whether any token holds a placeholder. -/
def hasPlaceholder (t : Template) : Bool := t.tokens.any holdsPlaceholder

/-- A token with a name for each placeholder. -/
def fill (name token : String) : String := Text.replace placeholder name token

/-- `render_program`: the program to run for a name. -/
def renderProgram (t : Template) (name : String) : String := fill name t.program

/-- `render_args`: the arguments to run it with. -/
def renderArgs (t : Template) (name : String) : List String :=
  t.args.map (fill name) ++ if t.hasPlaceholder then [] else [name]

end Template

/-- `RunbookAction`: a template bound to a service. -/
structure Action where
  template : Template
  target : Dispatch.Identifier
  deriving DecidableEq

namespace Action

/-- The program to run. -/
def program (a : Action) : String := a.template.renderProgram a.target.text

/-- The arguments to run it with. -/
def args (a : Action) : List String := a.template.renderArgs a.target.text

/-- The program and its arguments. -/
def argv (a : Action) : List String := a.program :: a.args

/-- `command_line`: the argument vector as it is shown, with a blank between each two; it is
never run in this form. -/
def commandLine (a : Action) : String := " ".intercalate a.argv

end Action

end Command
end Remedy
