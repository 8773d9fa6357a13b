/-
# Redirecting descriptors

What a redirection does to the descriptors of a process, and what is wrong with one
that cannot be done.
-/

import Remedy.Host.Shell.State

namespace Remedy
namespace Host
namespace Shell

/-- A redirection whose target is known. -/
inductive Redirected where
  | path (descriptor : Nat) (direction : Direction) (path : Octets)
  /-- The descriptor becomes the same as another one, or is closed. -/
  | copy (descriptor : Nat) (source : Option Nat)
  | text (descriptor : Nat) (text : Octets)

/-- The redirection to a target; a descriptor to be copied has one digit. -/
def Redirected.of? (descriptor : Nat) (d : Direction) (target : Octets) : Option Redirected :=
  match d, target with
  | .duplicate, ['-'] => some (.copy descriptor none)
  | .duplicate, [c] => if c.isDigit then some (.copy descriptor (some (c.toNat - 48))) else none
  | .duplicate, _ => none
  | d, target => some (.path descriptor d target)

namespace State

/-- Points a descriptor elsewhere. -/
def point (s : State) (descriptor : Nat) (c : Channel) : State :=
  { s with process := s.process.withChannel descriptor c }

/-- Opens a path for a descriptor, or says why that cannot be. -/
def openFor (s : State) (descriptor : Nat) (path : Octets) (a : Access) :
    Except Octets State :=
  match s.machine.openPath s.process path a with
  | .ok (c, m) => .ok ({ s with machine := m }.point descriptor c)
  | .error r =>
    let why :=
      match r with
      | .noEntry | .notDirectory =>
        (if a.creates then "Directory nonexistent" else "No such file").toList
      | r => Program.reason r
    .error ((if a.creates then "cannot create " else "cannot open ").toList ++ path
      ++ ": ".toList ++ why)

/-- Makes a descriptor the same as another one, or closes it. -/
def duplicate (s : State) (descriptor : Nat) : Option Nat → Except Octets State
  | none => .ok { s with process.descriptors := s.process.descriptors.close descriptor }
  | some k =>
    if k = descriptor then .ok s
    else
      match s.process.descriptors.lookup k with
      | some channel => .ok (s.point descriptor channel)
      | none => .error (Octets.ofNat k ++ ": Bad file descriptor".toList)

/-- Applies a redirection. -/
def redirect (s : State) : Redirected → Except Octets State
  | .path d .read path => s.openFor d path .read
  | .path d .append path => s.openFor d path .append
  | .path d .update path => s.openFor d path .update
  | .path d .write path =>
    s.openFor d path { Access.write with keeps := s.options.has "noclobber" }
  | .path d _ path => s.openFor d path .write
  | .copy d k => s.duplicate d k
  | .text d text =>
    let (c, m) := s.machine.source (.ofText text)
    .ok ({ s with machine := m }.point d c)

/-- Applies redirections, up to the first one that is wrong. -/
def redirectAll (s : State) : List Redirected → Except Octets Unit × State
  | [] => (.ok (), s)
  | r :: rest =>
    match s.redirect r with
    | .ok s => s.redirectAll rest
    | .error why => (.error why, s)

/-- The state with the descriptors of another one. -/
def withDescriptors (s : State) (ds : Descriptors) : State :=
  { s with process.descriptors := ds }

end State
end Shell
end Host
end Remedy
