/-
# Directories

The shell keeps the path by which it has come to its directory.  A path is followed
without going up again on the way, unless links are to be resolved first.
-/

import Remedy.Host.Shell.Builtin.Basic
import Remedy.Host.Shell.Lookup

namespace Remedy
namespace Host
namespace Shell
namespace Builtin

/-- The names between slashes. -/
def namesOf (path : Octets) : List Octets := (Text.pieces ['/'] path).filter (!·.isEmpty)

/-- The path that leads by another from some place, without going up again on the way.
Two slashes in front are kept. -/
def pathBy (here path : Octets) : Octets :=
  let isAbsolute := path.head? = some '/'
  let start := if isAbsolute then path else here
  let twice := start.takeWhile (· = '/') = ['/', '/']
  let names := if isAbsolute then namesOf path else namesOf here ++ namesOf path
  let kept := names.foldl (fun kept name =>
    if name = ['.'] then kept
    else if name = ['.', '.'] then kept.drop 1
    else name :: kept) []
  (if twice then ['/'] else []) ++ '/' :: ['/'].intercalate kept.reverse

/-- The path of a location. -/
def plainPath (l : Location) : Octets := Octets.ofText ("/" ++ "/".intercalate l)

/-- Whether links are resolved, by the last of some options. -/
def isPlain (chosen : List (Char × Octets)) : Bool := chosen.getLast?.any (·.1 = 'P')

/-- Puts the shell into a directory. -/
def moveTo (s : State) (l : Location) (path : Octets) : Except Octets State := do
  let s ← s.assign? "OLDPWD".toList s.here
  let s := { s with
    here := path
    process.directory := l
    exported := "PWD".toList :: "OLDPWD".toList :: s.exported }
  s.assign? "PWD".toList path

/-- The directory that a path leads to. -/
def directory? (s : State) (path : Octets) : Option Location :=
  match s.machine.resolve s.process path with
  | .ok (l, .directory) => some l
  | _ => none

/-- Whether a path is looked for from the directory at hand and nowhere else. -/
def isAnchored (path : Octets) : Bool :=
  path.head? = some '/' ||
    [".", ".."].any fun dots => path.takeWhile (· != '/') = dots.toList

/-- The path of a directory behind those that are searched, and whether another one than
the directory at hand was searched. -/
def searched (s : State) (path : Octets) : Octets × Bool :=
  match if isAnchored path then none else s.valueOf? "CDPATH".toList with
  | none => (path, false)
  | some places =>
    match (Text.pieces [':'] places).find? fun d => (directory? s (pathIn d path)).isSome with
    | some d => (pathIn d path, !d.isEmpty)
    | none => (path, false)

/-- Changes the directory. -/
def cd : Builtin := fun args s =>
  s.withOptions "LP" args fun chosen operands =>
    let goesBack := operands.head? = some ['-']
    let named (name : String) : Octets := (s.valueOf? name.toList).getD []
    let wanted :=
      if goesBack then named "OLDPWD"
      else
        match operands with
        | a :: _ => a
        | [] => named "HOME"
    let (path, isElsewhere) := searched s (if wanted.isEmpty then ['.'] else wanted)
    let direct := if isPlain chosen then path else pathBy s.here path
    match directory? s direct with
    | none => s.abort ("can't cd to ".toList ++ wanted)
    | some l =>
      let s := (s.finish 0).orAbort (moveTo s l (if isPlain chosen then plainPath l else direct))
      if s.flow = .on && (goesBack || isElsewhere) then s.print (Octets.line s.here) else s

/-- Prints the directory. -/
def pwd : Builtin := fun args s =>
  s.withOptions "LP" args fun chosen _ =>
    (s.finish 0).print
      (Octets.line (if isPlain chosen then plainPath s.process.directory else s.here))

end Builtin
end Shell
end Host
end Remedy
