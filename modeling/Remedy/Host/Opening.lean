/-
# Opening paths

What a path leads to from the directory of a process, and what the process has when
it has opened it.  The descriptors of a process are files themselves, below a
directory of their own.
-/

import Remedy.Host.Machine

namespace Remedy
namespace Host
namespace Machine

/-- The directory of the descriptors of a process. -/
def descriptorDirectory : Location := ["proc", "self", "fd"]

/-- The files as a process finds them. -/
def filesOf (m : Machine) (p : Process) : FileSystem :=
  let open? := p.descriptors.map fun d => (toString d.1, Node.file)
  { m.files with
    current := p.directory
    root := m.files.root.insert (.directory open?) descriptorDirectory }

/-- The absolute location that a path leads to, from the directory of a process. -/
def resolve (m : Machine) (p : Process) (path : Octets) : Except Refusal (Location × Entry) :=
  (m.filesOf p).resolve ⟨Octets.toBytes path⟩

/-- Whether a path is one of a link, from the directory of a process. -/
def isLink (m : Machine) (p : Process) (path : Octets) : Bool :=
  (m.filesOf p).isLink ⟨Octets.toBytes path⟩

/-- The devices by their locations. -/
def device? : Location → Option Device
  | ["dev", "null"] => some .null
  | ["dev", "zero"] | ["dev", "random"] | ["dev", "urandom"] => some .zeros
  | ["dev", "full"] => some .full
  | _ => none

/-- The channel of a descriptor that a location is. -/
def descriptor? (p : Process) : Location → Option Channel
  | ["proc", "self", "fd", n] => n.toNat?.bind fun k => p.descriptors.lookup k
  | _ => none

/-- What kind of thing stands at a location. -/
inductive Kind where
  | regular
  | directory
  | character
  | pipe
  deriving DecidableEq, Repr

/-- The kind of what is found at a location. -/
def kindOf (p : Process) (l : Location) (e : Entry) : Kind :=
  match e, descriptor? p l with
  | .directory, _ | _, some .directory => .directory
  | _, some (.pipe _) | _, some (.source _) => .pipe
  | _, some (.device _ _ _) => .character
  | _, some (.opened _) => .regular
  | _, none => if l.head? = some "dev" then .character else .regular

/-- Opens the file at a location. -/
def openFile (m : Machine) (l : Location) (a : Access) : Channel × Machine :=
  let (n, m) := m.number
  let m := if a.truncates then m.putText l [] else m
  (.opened n, m.putOpening n ⟨l, 0, a.reads, a.writes, a.appends⟩)

/-- Opens a path. -/
def openPath (m : Machine) (p : Process) (path : Octets) (a : Access) :
    Except Refusal (Channel × Machine) :=
  match m.resolve p path with
  | .ok (l, e) =>
    match kindOf p l e, descriptor? p l, device? l with
    | .directory, _, _ => if a.writes then .error .isDirectory else .ok (.directory, m)
    | _, some (.opened n), _ =>
      match m.openings.lookup n with
      | some o => if a.keeps then .error .alreadyThere else .ok (m.openFile o.location a)
      | none => .error .noEntry
    | _, some (.device d _ _), _ => .ok (.device d a.reads a.writes, m)
    | _, some c, _ => .ok (c, m)
    | _, none, some d => .ok (.device d a.reads a.writes, m)
    | .character, none, none => .error .noDevice
    | _, none, none => if a.keeps then .error .alreadyThere else .ok (m.openFile l a)
  | .error .noEntry =>
    if a.creates then do
      let (l, files) ← (m.filesOf p).makeFile ⟨Octets.toBytes path⟩
      .ok ({ m with files := { files with current := m.files.current } }.openFile l
        { a with truncates := true })
    else .error .noEntry
  | .error e => .error e

/-- Reads all of the file at a path. -/
def textOf (m : Machine) (p : Process) (path : Octets) : Except Refusal Octets × Machine :=
  match m.openPath p path .read with
  | .ok (c, m) => m.readAll (p.withChannel 0 c) 0
  | .error r => (.error r, m)

end Machine
end Host
end Remedy
