/-
# Starting commands

`launch` starts a program by its argument vector, in a directory, without a shell
in between, and tells how the command goes: when and how its process ends, what
is written to its two outputs, and when the last process that has them open closes
them.
-/

import Remedy.Host.Shell.Run

namespace Remedy
namespace Host

/-- Why a command cannot be started. -/
inductive Obstacle where
  /-- A text that is handed to the system holds a null byte. -/
  | nullByte
  | refused (r : Refusal)
  deriving DecidableEq, Repr

/-- What is told about an obstacle. -/
def Obstacle.message : Obstacle → String
  | nullByte => "nul byte found in provided data"
  | refused r => r.message

/-- What is written to an output of a command. -/
structure Stream where
  bytes : List UInt8
  /-- When it is closed, in microseconds. -/
  closed : Nat

/-- How a command goes. -/
structure Course where
  ending : Shell.End
  /-- When its process ends, in microseconds. -/
  finished : Nat
  output : Stream
  errors : Stream

namespace System

/-- More steps than any command of interest takes. -/
def budget : Nat := 4000000

/-- The longest argument, in bytes, with its end. -/
def maxArgument : Nat := 131072

/-- The most that all arguments may take, in bytes, with their ends. -/
def maxArguments : Nat := 2097152

/-- The directory in which a command starts. -/
def directory (files : FileSystem) : Option Path → Except Obstacle Location
  | none => .ok files.current
  | some path => do
    if path.bytes.contains 0 then .error .nullByte
    match files.resolve path with
    | .ok (l, .directory) => .ok l
    | .ok _ => .error (.refused .notDirectory)
    | .error r => .error (.refused r)

/-- The program that a name or a path leads to from a directory. -/
def program (files : FileSystem) (l : Location) (name : String) : Except Obstacle String := do
  let path := Path.ofText name
  if name.toList.contains '/' then
    match { files with current := l }.resolve path with
    | .ok (_, .program p) => .ok p
    | .ok _ => .error (.refused .noAccess)
    | .error r => .error (.refused r)
  else if FileSystem.maxName < path.bytes.length then .error (.refused .nameTooLong)
  else if [".", ".."].contains name then .error (.refused .noAccess)
  else
    match files.entry? ["usr", "bin", name] with
    | some (.program p) => .ok p
    | some .directory => .error (.refused .noAccess)
    | _ => .error (.refused .noEntry)

/-- Starts a command; what happens after the horizon is not told. -/
def launch (files : FileSystem) (name : String) (args : List String) (dir : Option Path)
    (horizon : Nat) : Except Obstacle Course := do
  if (name :: args).any fun a => a.toList.contains '\x00' then .error .nullByte
  let l ← directory files dir
  let p ← program files l name
  let sizes := (name :: args).map fun a => a.utf8ByteSize + 1
  if sizes.any (maxArgument < ·) || maxArguments < sizes.foldl (· + · + 8) 0 then
    .error (.refused .argumentsTooLong)
  let process : Process := ⟨10, l, Machine.descriptors, []⟩
  let machine := (Machine.start files horizon).pass Shell.startTime
  let (ending, m) := Shell.runProgram budget p (Octets.ofText name) (args.map Octets.ofText) process machine
  let stream (pipe : Nat) : Stream := ⟨Octets.toBytes (m.written pipe), m.closing pipe⟩
  return ⟨ending, m.now, stream Machine.outputPipe, stream Machine.errorPipe⟩

end System
end Host
end Remedy
