/-
# What processes have open

A descriptor of a process leads to a channel: a device, the end of a pipe, or a file
that has been opened.  What a descriptor leads to may be shared with other
descriptors and other processes, which then share the place in the file as well.
-/

import Remedy.Host.Creation
import Remedy.Host.Path

namespace Remedy
namespace Host

/-- A device. -/
inductive Device where
  /-- Nothing to read; what is written vanishes. -/
  | null
  /-- Zeros without end; what is written vanishes. -/
  | zeros
  /-- Zeros without end, and no room to write. -/
  | full
  deriving DecidableEq, Repr

/-- What a descriptor leads to. -/
inductive Channel where
  /-- A device, opened for reading, for writing, or for both. -/
  | device (d : Device) (reads writes : Bool)
  /-- A directory, which can be opened but not read as a file. -/
  | directory
  /-- The writing end of a numbered pipe. -/
  | pipe (number : Nat)
  /-- The reading end of a numbered pipe. -/
  | source (number : Nat)
  /-- A file, by the number under which it has been opened. -/
  | opened (number : Nat)
  deriving DecidableEq, Repr

/-- A file that has been opened. -/
structure Opening where
  location : Location
  /-- The place of the next byte that is read or written. -/
  offset : Nat
  reads : Bool
  writes : Bool
  /-- Whether all is written at the end. -/
  appends : Bool

/-- How a path is to be opened. -/
structure Access where
  reads : Bool
  writes : Bool
  /-- Whether a file that is not there is made. -/
  creates : Bool
  /-- Whether what a file holds is dropped. -/
  truncates : Bool
  appends : Bool
  /-- Whether a file that is there already is left alone. -/
  keeps : Bool

namespace Access

/-- For reading. -/
def read : Access := ⟨true, false, false, false, false, false⟩

/-- For writing from the beginning. -/
def write : Access := ⟨false, true, true, true, false, false⟩

/-- For writing at the end. -/
def append : Access := ⟨false, true, true, false, true, false⟩

/-- For reading and writing. -/
def update : Access := ⟨true, true, true, false, false, false⟩

end Access

/-- The open descriptors of a process. -/
abbrev Descriptors := List (Nat × Channel)

namespace Descriptors

/-- The descriptors after one has been pointed elsewhere. -/
def set (ds : Descriptors) (n : Nat) (c : Channel) : Descriptors :=
  (n, c) :: ds.filter (·.1 != n)

/-- The descriptors after one has been closed. -/
def close (ds : Descriptors) (n : Nat) : Descriptors := ds.filter (·.1 != n)

/-- The pipes that the descriptors keep open. -/
def pipes (ds : Descriptors) : List Nat :=
  ds.filterMap fun d =>
    match d.2 with
    | .pipe n => some n
    | _ => none

end Descriptors

/-- What a process has for itself. -/
structure Process where
  number : Nat
  directory : Location
  descriptors : Descriptors
  /-- The variables that it has been given. -/
  environment : List (Octets × Octets)

namespace Process

/-- A process with one descriptor pointed elsewhere. -/
def withChannel (p : Process) (n : Nat) (c : Channel) : Process :=
  { p with descriptors := p.descriptors.set n c }

end Process
end Host
end Remedy
