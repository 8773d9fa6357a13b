/-
# Echo

There are two of them: the one built into the shell, which reads backslash
sequences, and the program, which does so only when asked to.
-/

import Remedy.Host.Program.Basic
import Remedy.Host.Program.Escape

namespace Remedy
namespace Host
namespace Program

/-- The arguments with a blank between each two. -/
def joined (args : List Octets) : Octets := [' '].intercalate args

/-- The sequences that the shell knows in arguments. -/
def shellEscapes : Escapes := ⟨true, false, true⟩

/-- The sequences that programs know in arguments. -/
def programEscapes : Escapes := ⟨true, true, true⟩

/-- The sequences in a format. -/
def formatEscapes (shell : Bool) : Escapes := ⟨false, !shell, !shell⟩

/-- What the echo of the shell prints. -/
def shellEcho (args : List Octets) : Octets :=
  let (newline, args) :=
    match args with
    | ['-', 'n'] :: rest => (false, rest)
    | args => (true, args)
  let (text, ended) := shellEscapes.decode (joined args)
  if newline && !ended then text ++ ['\n'] else text

/-- The options of the echo program, read off its first arguments: whether a
newline follows, whether sequences are read, and what is to be printed. -/
def echoOptions : Bool → Bool → List Octets → Bool × Bool × List Octets
  | newline, escapes, ('-' :: letters) :: rest =>
    if letters ≠ [] ∧ letters.all (fun c => c = 'n' || c = 'e' || c = 'E') then
      echoOptions (newline && !letters.contains 'n')
        (letters.foldl (fun e c => if c = 'e' then true else if c = 'E' then false else e) escapes)
        rest
    else (newline, escapes, ('-' :: letters) :: rest)
  | newline, escapes, args => (newline, escapes, args)

/-- The echo program. -/
def echo : Body := fun c m =>
  let (newline, escapes, args) := echoOptions true false c.args
  let (text, ended) := if escapes then programEscapes.decode (joined args) else (joined args, false)
  c.print (if newline && !ended then text ++ ['\n'] else text) m

end Program
end Host
end Remedy
