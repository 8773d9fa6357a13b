/-
# Making directories and files

What making something does to a file system.  A directory is made together with
those on the way to it that are missing.  Nothing can be made where the system
itself keeps what is to be found.
-/

import Remedy.Host.FileSystem

namespace Remedy
namespace Host
namespace FileSystem

/-- What is to be made. -/
inductive Making where
  | directory
  | file
  deriving DecidableEq, Repr

/-- Why nothing can be made in a directory of the system itself. -/
def refusalIn (making : Making) (l : Location) : Option Refusal :=
  let denied : Refusal :=
    match making with
    | .directory => .notPermitted
    | .file => .noAccess
  match l with
  | "proc" :: _ => some .noEntry
  | "sys" :: _ | "dev" :: "pts" :: _ => some denied
  | _ => none

/-- Where the last name of a path would be put. -/
def placeOf (fs : FileSystem) (making : Making) (absolute : Bool) (before : List (List UInt8))
    (last : List UInt8) : Except Refusal Location := do
  let l ← fs.walk absolute before
  match fs.entry? l with
  | some .directory =>
    if maxName < last.length then .error .nameTooLong
    else
      match Text.Utf8.decode? last with
      | none => .error .noAccess
      | some ['.'] | some ['.', '.'] => .error .alreadyThere
      | some cs =>
        let l' := l ++ [String.ofList cs]
        match fs.node? l', refusalIn making l with
        | none, some r => .error r
        | _, _ => .ok l'
  | _ => .error .notDirectory

/-- The path that leads along names. -/
def pathAlong (absolute : Bool) (parts : List (List UInt8)) : Path :=
  ⟨(if absolute then [0x2F] else []) ++ ([0x2F] : List UInt8).intercalate parts⟩

/-- Makes a directory in one that is there. -/
def makeDirectory (fs : FileSystem) (absolute : Bool) (before : List (List UInt8))
    (last : List UInt8) : Except Refusal FileSystem := do
  if maxPath ≤ (pathAlong absolute (before ++ [last])).bytes.length then .error .nameTooLong
  else
    let l ← fs.placeOf .directory absolute before last
    if (fs.node? l).isSome then .error .alreadyThere
    else .ok (fs.insert l (.directory []))

/-- Makes the directory at the end of some names, which are given from the last
one back, and those on the way to it. -/
def makeAlong (fs : FileSystem) (absolute : Bool) :
    List (List UInt8) → Except Refusal FileSystem
  | [] => .ok fs
  | last :: before =>
    let settled (fs : FileSystem) (r : Except Refusal FileSystem) : Except Refusal FileSystem :=
      match r with
      | .ok fs => .ok fs
      | .error e =>
        if fs.isDirectory (pathAlong absolute (last :: before).reverse) then .ok fs else .error e
    match fs.makeDirectory absolute before.reverse last with
    | .error .noEntry => do
      let fs ← makeAlong fs absolute before
      settled fs (fs.makeDirectory absolute before.reverse last)
    | r => settled fs r

/-- Makes a directory and those on the way to it. -/
def makeDirectories (fs : FileSystem) (p : Path) : Except Refusal FileSystem :=
  if maxPath ≤ p.bytes.length then .error .nameTooLong
  else fs.makeAlong p.isAbsolute p.parts.reverse

/-- Makes a file in a directory that is there, unless it is there itself, and says
where it is. -/
def makeFile (fs : FileSystem) (p : Path) : Except Refusal (Location × FileSystem) :=
  match fs.resolve p, p.parts.reverse with
  | .ok (_, .directory), _ => .error .isDirectory
  | .ok (l, _), _ => .ok (l, fs)
  | .error .noEntry, last :: before => do
    let l ← fs.placeOf .file p.isAbsolute before.reverse last
    .ok (l, fs.insert l .file)
  | .error e, _ => .error e

/-- Makes a file, and the directories on the way to it if it takes them. -/
def makeFileAnywhere (fs : FileSystem) (p : Path) : Except Refusal (Location × FileSystem) :=
  match fs.makeFile p with
  | .ok r => .ok r
  | .error _ => do
    let fs ← fs.makeDirectories (pathAlong p.isAbsolute p.parts.dropLast)
    fs.makeFile p

/-- A location as it is named from the current directory, if it is below it. -/
def relative? (fs : FileSystem) (l : Location) : Option String :=
  if fs.current.isPrefixOf l then some ("/".intercalate (l.drop fs.current.length)) else none

end FileSystem
end Host
end Remedy
