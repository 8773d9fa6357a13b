/-
# Reading

`read` takes a line of the input apart; `getopts` takes the arguments apart.
-/

import Remedy.Host.Shell.Builtin.Basic
import Remedy.Host.Shell.Fields

namespace Remedy
namespace Host
namespace Shell
namespace Builtin

/-- The pieces of a line in which backslashes protect what follows them; and whether the
end of the line is protected as well. -/
def pieces : Octets → List Piece × Bool
  | [] => ([], false)
  | ['\\'] => ([], true)
  | '\\' :: c :: rest =>
    let (ps, more) := pieces rest
    (.fixed true [c] :: ps, more)
  | c :: rest =>
    match pieces rest with
    | (.loose cs :: ps, more) => (.loose (c :: cs) :: ps, more)
    | (ps, more) => (.loose [c] :: ps, more)

/-- Reads a line, or several if their ends are protected, as far as a number of lines
goes; and says whether there was an end. -/
def readLines (isRaw : Bool) (p : Process) : Nat → Machine → List Piece × Bool × Machine
  | 0, m => ([], false, m)
  | n + 1, m =>
    match m.readLine p 0 with
    | (.error _, m) => ([], false, m)
    | (.ok (line, hasEnd), m) =>
      let line := line.filter (· != '\x00')
      let (ps, isProtected) := if isRaw then ([.loose line], false) else pieces line
      if isProtected && hasEnd then
        let (more, hasEnd, m) := readLines isRaw p n m
        (ps ++ more, hasEnd, m)
      else (ps, hasEnd, m)

/-- Reads a line into variables. -/
def read : Builtin := fun args s =>
  s.withOptions "p:r" args fun chosen names =>
    if names.isEmpty then s.abort "arg count".toList
    else
      let isRaw := chosen.any (·.1 = 'r')
      let (ps, hasEnd, m) := readLines isRaw s.process Machine.enough s.machine
      let s := { s with machine := m }.finish (if hasEnd then 0 else 1)
      let values := fieldsWithin names.length s.separators ps
      (names.zip (values ++ List.replicate names.length [])).foldl (fun s v =>
        if s.flow = .on then s.orAbort (s.assign? v.1 v.2) else s) s

/-- Takes the next option off the arguments, those of the shell or others. -/
def getopts : Builtin := fun args s =>
  match args with
  | options :: name :: others =>
    let args := if others.isEmpty then s.arguments else others
    let (index, offset) :=
      if args.length + 1 < s.optionIndex then (1, none) else (s.optionIndex, s.optionOffset)
    let o := Getopts.next options index offset args
    let s :=
      match o.complaint with
      | some c => { s with machine := s.machine.complain s.process c }
      | none => s
    let s :=
      match o.argument with
      | some (some a) => s.assign "OPTARG".toList a
      | some none => { s with bindings := s.bindings.filter (·.1 != "OPTARG".toList) }
      | none => s
    let s := (s.assign "OPTIND".toList (Octets.ofNat o.index)).finish (if o.isOver then 1 else 0)
    let s := { s with optionIndex := o.index, optionOffset := o.offset }
    s.orAbort (s.assign? name [o.letter])
  | _ => s.abort "Usage: getopts optstring var [arg]".toList

end Builtin
end Shell
end Host
end Remedy
