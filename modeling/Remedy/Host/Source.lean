/-
# What comes out of a pipe

The reading end of a pipe: what was written to it and when, and when the last writer
closed it.  A reader gets what is there, and waits only if nothing is.
-/

import Remedy.Host.Path

namespace Remedy
namespace Host

/-- What is left to read of a pipe. -/
structure Source where
  /-- What was written, each with its time, the first of it first. -/
  chunks : List (Nat × Octets)
  closed : Nat
  /-- Whether more would be written if it were read. -/
  isEndless : Bool

namespace Source

/-- A text that is there from the start. -/
def ofText (text : Octets) : Source := ⟨if text.isEmpty then [] else [(0, text)], 0, false⟩

/-- What is left of some chunks when a text has been taken from the first of them. -/
def putBack (time : Nat) (text : Octets) (chunks : List (Nat × Octets)) : List (Nat × Octets) :=
  if text.isEmpty then chunks else (time, text) :: chunks

/-- What a reader gets that comes at a time and takes at most so much; when it has it,
and what is left. -/
def next (s : Source) (now count : Nat) : Octets × Nat × Source :=
  match s.chunks with
  | [] => ([], max now s.closed, s)
  | (t, _) :: _ =>
    let time := max now t
    let ready := (s.chunks.takeWhile fun c => c.1 ≤ time).flatMap (·.2)
    let later := s.chunks.dropWhile fun c => c.1 ≤ time
    (ready.take count, time, { s with chunks := putBack time (ready.drop count) later })

/-- All there is to read. -/
def all (s : Source) : Octets := s.chunks.flatMap (·.2)

/-- The line that chunks begin with, whether it has an end, when that is known, and
what is left. -/
def lineOf (closed now : Nat) :
    List (Nat × Octets) → Octets × Bool × Nat × List (Nat × Octets)
  | [] => ([], false, max now closed, [])
  | (t, cs) :: rest =>
    let line := cs.takeWhile (· != '\n')
    if line.length < cs.length then
      (line, true, max now t, putBack t (cs.drop (line.length + 1)) rest)
    else
      let (more, hasEnd, time, left) := lineOf closed (max now t) rest
      (cs ++ more, hasEnd, time, left)

end Source
end Host
end Remedy
