/-
# What a file system holds

As much of a file system as the program asks about: a tree of directories, files,
programs and links, and where the program stands in it.  A path is followed from
name to name; a link on the way is replaced by what it leads to, so often at most.
-/

import Remedy.Host.Path

namespace Remedy
namespace Host

/-- What a path leads to. -/
inductive Entry where
  | directory
  | file
  /-- A file that can be run. -/
  | program (name : String)
  deriving DecidableEq, Repr

/-- Why the system refuses something. -/
inductive Refusal where
  | noEntry
  | notPermitted
  | noAccess
  | alreadyThere
  | notDirectory
  | isDirectory
  | argumentsTooLong
  | nameTooLong
  | tooManyLinks
  | noDevice
  | badDescriptor
  | noSpace
  | illegalSeek
  | networkUnreachable
  | connectionRefused
  deriving DecidableEq, Repr

namespace Refusal

/-- The number and the text of a refusal. -/
def coded : Refusal → Nat × String
  | noEntry => (2, "No such file or directory")
  | notPermitted => (1, "Operation not permitted")
  | noAccess => (13, "Permission denied")
  | alreadyThere => (17, "File exists")
  | notDirectory => (20, "Not a directory")
  | isDirectory => (21, "Is a directory")
  | argumentsTooLong => (7, "Argument list too long")
  | nameTooLong => (36, "File name too long")
  | tooManyLinks => (40, "Too many levels of symbolic links")
  | noDevice => (6, "No such device or address")
  | badDescriptor => (9, "Bad file descriptor")
  | noSpace => (28, "No space left on device")
  | illegalSeek => (29, "Illegal seek")
  | networkUnreachable => (101, "Network is unreachable")
  | connectionRefused => (111, "Connection refused")

/-- What is told about a refusal. -/
def message (r : Refusal) : String :=
  r.coded.2 ++ " (os error " ++ toString r.coded.1 ++ ")"

end Refusal

/-- Names along the way from the root. -/
abbrev Location := List String

/-- What stands somewhere in the tree. -/
inductive Node where
  | file
  /-- A file that can be run. -/
  | program (name : String)
  | link (target : Path)
  /-- A link to the directory in which whoever follows it stands. -/
  | currentLink
  | directory (members : List (String × Node))

namespace Node

/-- What a node is to those who have reached it; a link is not reached. -/
def entry? : Node → Option Entry
  | file => some .file
  | program name => some (.program name)
  | directory _ => some .directory
  | link _ => none
  | currentLink => none

/-- What is in a directory; nothing is in anything else. -/
def members : Node → List (String × Node)
  | directory ms => ms
  | _ => []

/-- What stands at some names from a node, links not followed. -/
def find? (n : Node) : Location → Option Node
  | [] => some n
  | name :: rest =>
    match n.members.lookup name with
    | some m => m.find? rest
    | none => none

/-- Members with the one of a name replaced, or added in front. -/
def put (name : String) (m : Node) (ms : List (String × Node)) : List (String × Node) :=
  if (ms.lookup name).isSome then ms.map fun p => if p.1 = name then (name, m) else p
  else (name, m) :: ms

/-- The tree with a node put at some names; what is missing on the way becomes a
directory. -/
def insert (n : Node) (new : Node) : Location → Node
  | [] => new
  | name :: rest =>
    directory (put name (((n.members.lookup name).getD (directory [])).insert new rest) n.members)

end Node

/-- A place in a tree, reached from the root by names: each with its node, the
last one first. -/
structure Spot where
  root : Node
  trail : List (String × Node)

namespace Spot

/-- What stands at a place. -/
def node (s : Spot) : Node :=
  match s.trail with
  | [] => s.root
  | (_, n) :: _ => n

/-- The names that lead to a place. -/
def location (s : Spot) : Location := (s.trail.map (·.1)).reverse

/-- The root. -/
def top (s : Spot) : Spot := { s with trail := [] }

/-- The directory around a place; the root is its own. -/
def up (s : Spot) : Spot := { s with trail := s.trail.drop 1 }

/-- A member of a place. -/
def down (s : Spot) (name : String) (n : Node) : Spot := { s with trail := (name, n) :: s.trail }

end Spot

/-- A file system and the place of the program in it. -/
structure FileSystem where
  root : Node
  /-- Where relative paths start. -/
  current : Location

namespace FileSystem

/-- What stands at a location, links not followed. -/
def node? (fs : FileSystem) (l : Location) : Option Node := fs.root.find? l

/-- What stands at a location that is none of a link. -/
def entry? (fs : FileSystem) (l : Location) : Option Entry := (fs.node? l).bind Node.entry?

/-- The place at a location. -/
def spot (fs : FileSystem) (l : Location) : Spot :=
  l.foldl (fun s name =>
    match s.node.members.lookup name with
    | some n => s.down name n
    | none => s) ⟨fs.root, []⟩

/-- Puts a node at a location. -/
def insert (fs : FileSystem) (l : Location) (n : Node) : FileSystem :=
  { fs with root := fs.root.insert n l }

/-- The longest name there can be, in bytes. -/
def maxName : Nat := 255

/-- The longest path there can be, in bytes, with its end. -/
def maxPath : Nat := 4096

/-- How many links are followed on the way along one path. -/
def maxLinks : Nat := 40

/-- Where names lead from a place, while `links` links may still be followed. -/
def follow (fs : FileSystem) (links : Nat) (s : Spot) :
    List (List UInt8) → Except Refusal Spot
  | [] => .ok s
  | part :: rest =>
    match s.node with
    | .directory members =>
      if maxName < part.length then .error .nameTooLong
      else
        match Text.Utf8.decode? part with
        | some ['.'] => follow fs links s rest
        | some ['.', '.'] => follow fs links s.up rest
        | some cs =>
          let name := String.ofList cs
          match members.lookup name with
          | none => .error .noEntry
          | some (.link target) =>
            if 0 < links then
              follow fs (links - 1) (if target.isAbsolute then s.top else s) (target.parts ++ rest)
            else .error .tooManyLinks
          | some .currentLink =>
            if 0 < links then follow fs (links - 1) (fs.spot fs.current) rest
            else .error .tooManyLinks
          | some n => follow fs links (s.down name n) rest
        | none => .error .noEntry
    | _ => .error .notDirectory
  termination_by parts => (links, parts.length)

/-- The place where paths of a kind start. -/
def base (fs : FileSystem) (absolute : Bool) : Spot :=
  if absolute then fs.spot [] else fs.spot fs.current

/-- Where names lead. -/
def walk (fs : FileSystem) (absolute : Bool) (parts : List (List UInt8)) :
    Except Refusal Location :=
  (fs.follow maxLinks (fs.base absolute) parts).map Spot.location

/-- What a path leads to. -/
def resolve (fs : FileSystem) (p : Path) : Except Refusal (Location × Entry) := do
  if p.bytes.isEmpty then .error .noEntry
  else if maxPath ≤ p.bytes.length then .error .nameTooLong
  else
    let s ← fs.follow maxLinks (fs.base p.isAbsolute) p.parts
    match s.node.entry? with
    | some .directory => .ok (s.location, .directory)
    | some e => if p.endsInSlash then .error .notDirectory else .ok (s.location, e)
    | none => .error .noEntry

/-- Whether a path leads to a directory. -/
def isDirectory (fs : FileSystem) (p : Path) : Bool :=
  !p.bytes.contains 0 &&
    match fs.resolve p with
    | .ok (_, .directory) => true
    | _ => false

/-- Whether a path is one of a link. -/
def isLink (fs : FileSystem) (p : Path) : Bool :=
  match p.parts.getLast?.bind Text.Utf8.decode?, fs.walk p.isAbsolute p.parts.dropLast with
  | some name, .ok l =>
    !p.endsInSlash &&
      match fs.node? (l ++ [String.ofList name]) with
      | some (.link _) | some .currentLink => true
      | _ => false
  | _, _ => false

end FileSystem
end Host
end Remedy
