/-
# What commands are called

The parts of the shell and the programs, by their names.  A program is found along
the directories of `PATH`, and remembered; a name with a slash is a path itself.
-/

import Remedy.Host.Program.Copy.Run
import Remedy.Host.Program.Printf
import Remedy.Host.Program.Sleep
import Remedy.Host.Program.Stream
import Remedy.Host.Program.Test
import Remedy.Host.Shell.State
import Remedy.Text.Pieces

namespace Remedy
namespace Host
namespace Shell

/-- The names of the commands that are part of the shell. -/
def builtins : List String := [".", ":", "[", "alias", "bg", "break", "cd", "chdir", "command",
  "continue", "echo", "eval", "exec", "exit", "export", "false", "fg", "getopts", "hash", "jobs",
  "kill", "local", "printf", "pwd", "read", "readonly", "return", "set", "shift", "test", "times",
  "trap", "true", "type", "ulimit", "umask", "unalias", "unset", "wait"]

/-- Whether a command is part of the shell. -/
def isBuiltin (name : Octets) : Bool := builtins.contains (String.ofList name)

/-- Whether a command is one of those whose failures concern the shell itself. -/
def isSpecial (name : Octets) : Bool := Reader.specials.contains (String.ofList name)

/-- Whether the arguments of a command may be assignments. -/
def takesAssignments (name : Octets) : Bool :=
  ["alias", "export", "local", "readonly"].contains (String.ofList name)

/-- The programs other than the shell and those that run others. -/
def program? (name : String) : Option Program.Body :=
  match name with
  | "echo" => some Program.echo
  | "printf" => some Program.Printf.body
  | "sleep" => some Program.sleep
  | "dd" => some Program.Copy.body
  | "test" => some (Program.Test.program false)
  | "[" => some (Program.Test.program true)
  | "pwd" => some fun c m =>
    c.print (Octets.line (Octets.ofText ("/" ++ "/".intercalate c.process.directory))) m
  | _ => Program.byName? name

/-- Whether a program is the shell. -/
def isShell (name : String) : Bool := name = "sh" || name = "dash"

/-- What looking for a program comes to. -/
inductive Lookup where
  /-- A program, and its path. -/
  | program (name : String) (path : Octets)
  | refused (r : Refusal)

/-- Whether something is only not there. -/
def isMissing : Refusal → Bool
  | .noEntry | .notDirectory => true
  | _ => false

/-- What is said of a refusal to find or run a program. -/
def whyNotRun (r : Refusal) : Octets :=
  if isMissing r then "not found".toList else Program.reason r

/-- Looks up the program at a path. -/
def lookupPath (m : Machine) (p : Process) (path : Octets) : Lookup :=
  match m.resolve p path with
  | .ok (_, .program name) => .program name path
  | .ok _ => .refused .noAccess
  | .error r => .refused r

/-- The path of a name in a directory, which may be nothing for the current one. -/
def pathIn (directory name : Octets) : Octets :=
  if directory.isEmpty then name else directory ++ '/' :: name

/-- Looks a program up by its name in some directories. -/
def lookupIn (m : Machine) (p : Process) (name : Octets) (why : Refusal) : List Octets → Lookup
  | [] => .refused why
  | d :: rest =>
    match lookupPath m p (pathIn d name) with
    | .program n path => .program n path
    | .refused r => lookupIn m p name (if isMissing r then why else r) rest

/-- Looks a program up by its name or its path. -/
def lookup (m : Machine) (p : Process) (path name : Octets) : Lookup :=
  if name.contains '/' then lookupPath m p name
  else lookupIn m p name .noEntry (Text.pieces [':'] path)

/-- The directories that have the programs of the system. -/
def systemPath : Octets := "/usr/sbin:/usr/bin:/sbin:/bin".toList

namespace State

/-- The directories in which programs are looked for. -/
def path (s : State) : Octets := (s.valueOf? "PATH".toList).getD []

/-- Looks a program up for a command. -/
def find (s : State) (bySystem : Bool) (name : Octets) : Lookup :=
  lookup s.machine s.process (if bySystem then systemPath else s.path) name

/-- Remembers where a program was found. -/
def remember (s : State) (name path : Octets) : State :=
  if name.contains '/' || (s.hashed.lookup name).isSome then s
  else { s with hashed := s.hashed ++ [(name, path)] }

/-- In which part of a table something stands. -/
def bucket (size : Nat) (name : Octets) : Nat :=
  ((name.head?.map Char.toNat).getD 0 * 16 + name.foldl (· + ·.toNat) 0) % size

/-- A table in the order of its parts. -/
def bucketed {α : Type} (size : Nat) (table : List (Octets × α)) : List (Octets × α) :=
  (List.range size).flatMap fun k => table.filter fun e => bucket size e.1 = k

end State

/-- What a name means to the shell. -/
inductive Meaning where
  | keyword
  | alias (text : Octets)
  | function
  | builtin
  /-- A program, and whether it is remembered. -/
  | program (path : Octets) (isTracked : Bool)
  | nothing

namespace State

/-- What a name means to a shell. -/
def meaning (s : State) (bySystem : Bool) (name : Octets) : Meaning :=
  match s.aliases.lookup name, s.hashed.lookup name with
  | some text, _ => if Reader.reserved.contains (String.ofList name) then .keyword else .alias text
  | none, tracked =>
    if Reader.reserved.contains (String.ofList name) then .keyword
    else if (s.functions.lookup name).isSome then .function
    else if isBuiltin name then .builtin
    else
      match if bySystem then none else tracked with
      | some path => .program path true
      | none =>
        if name.contains '/' then
          match s.machine.resolve s.process name with
          | .ok _ => .program name false
          | .error _ => .nothing
        else
          match s.find bySystem name with
          | .program _ path => .program path false
          | .refused _ => .nothing

/-- An alias as it is listed. -/
def aliasLine (name text : Octets) : Octets := name ++ '=' :: Octets.line (quoted text)

/-- What is said about what a name means, in a sentence. -/
def described (name : Octets) : Meaning → Octets
  | .keyword => name ++ " is a shell keyword\n".toList
  | .alias text => name ++ " is an alias for ".toList ++ Octets.line text
  | .function => name ++ " is a shell function\n".toList
  | .builtin =>
    name ++ (if isSpecial name then " is a special shell builtin\n"
      else " is a shell builtin\n").toList
  | .program path isTracked =>
    name ++ (if isTracked then " is a tracked alias for " else " is ").toList ++ Octets.line path
  | .nothing => name ++ ": not found\n".toList

/-- What is said about what a name means, in a word that would mean the same. -/
def named (name : Octets) : Meaning → Octets
  | .alias text => "alias ".toList ++ aliasLine name text
  | .program path _ => Octets.line path
  | .nothing => []
  | _ => Octets.line name

/-- Whether a name means anything. -/
def isMeant : Meaning → Bool
  | .nothing => false
  | _ => true

end State
end Shell
end Host
end Remedy
