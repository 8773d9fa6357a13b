/-
# The language of the shell

A script is a command.  Words are lists of parts, which are known to be quoted
or not; what a part expands to is cut into fields only where it is not quoted.
-/

import Remedy.Host.Path

namespace Remedy
namespace Host
namespace Shell

/-- What is done with the value of a parameter that is missing. -/
inductive Fallback where
  /-- A word is used in its place. -/
  | use
  /-- A word is assigned and used. -/
  | assign
  /-- The shell ends, with a word for the reason. -/
  | complain
  /-- A word is used if the value is *not* missing. -/
  | instead
  deriving DecidableEq, Repr

/-- What a redirection does with its target. -/
inductive Direction where
  | read
  | write
  /-- As `write`, even where files are to be kept as they are. -/
  | overwrite
  | append
  /-- For reading, without a loss of what is there. -/
  | update
  /-- The target is a descriptor, or a dash to close. -/
  | duplicate
  deriving DecidableEq, Repr

mutual

/-- A part of a word. -/
inductive Part where
  | text (quoted : Bool) (cs : Octets)
  | parameter (quoted : Bool) (name : Octets) (use : Use)
  | command (quoted : Bool) (body : Command)
  | arithmetic (quoted : Bool) (body : List Part)

/-- What is made of the value of a parameter. -/
inductive Use where
  | value
  | length
  /-- Replaced where it is unset or, if asked for, empty. -/
  | fallback (kind : Fallback) (evenIfEmpty : Bool) (word : List Part)
  /-- Without what a pattern matches at one of its ends. -/
  | trim (atEnd longest : Bool) (pattern : List Part)
  /-- Nothing that there is. -/
  | wrong

/-- A redirection of a descriptor. -/
inductive Redirection where
  | of (descriptor : Nat) (direction : Direction) (target : List Part)
  /-- What is read is a document of the script itself. -/
  | document (descriptor : Nat) (body : List Part)

/-- A command. -/
inductive Command where
  | simple (line : Nat) (assignments : List (Octets × List Part)) (words : List (List Part))
      (redirections : List Redirection)
  | sequence (commands : List Command)
  | background (command : Command)
  | pipeline (commands : List Command)
  | negation (command : Command)
  | both (first second : Command)
  | either (first second : Command)
  | subshell (line : Nat) (body : Command)
  | branch (condition yes no : Command)
  /-- Goes on as long as the condition has the truth that is given. -/
  | loop (wanted : Bool) (condition body : Command)
  /-- Without words, the positional parameters are meant. -/
  | each (line : Nat) (name : Octets) (words : Option (List (List Part))) (body : Command)
  | select (line : Nat) (subject : List Part) (arms : List (List (List Part) × Command))
  | define (name : Octets) (body : Command)
  | redirected (line : Nat) (command : Command) (redirections : List Redirection)

end

/-- A word. -/
abbrev Word := List Part

/-- Nothing to do. -/
def Command.nothing : Command := .sequence []

end Shell
end Host
end Remedy
