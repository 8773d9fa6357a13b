/-
# Laying out states

The automaton for a pattern is laid out state by state, and what has been laid
out so far takes memory: so much for a state, and a little more for each of its
transitions and branches.  Laying out fails as soon as that exceeds the limit.
A `Part` is a stretch of the automaton with a state to come in by and one to go
out by.
-/

namespace Remedy
namespace Pattern

/-- The most memory that the automaton for a pattern may take, in bytes. -/
def footprintLimit : Nat := 10485760

/-- The memory of a state. -/
def stateSize : Nat := 32

/-- The memory of a branch to another state. -/
def branchSize : Nat := 4

/-- The memory of one of several transitions on ranges of bytes. -/
def transitionSize : Nat := 8

/-- What has been laid out: so many states, and the memory of their transitions
and branches. -/
structure Tally where
  states : Nat
  extra : Nat
  deriving DecidableEq, Repr

/-- The memory of what has been laid out. -/
def Tally.memory (t : Tally) : Nat := stateSize * t.states + t.extra

/-- Laying out something; nothing when that takes too much memory. -/
abbrev Layout (α : Type) : Type := StateT Tally Option α

/-- A stretch of the automaton.  To go on from a state that branches takes one
more branch. -/
structure Part where
  start : Nat
  stop : Nat
  branches : Bool
  deriving DecidableEq, Repr

namespace Layout

/-- Lays out states with some memory besides; the number of the first of them. -/
def grow (states extra : Nat) : Layout Nat := fun t =>
  let after : Tally := ⟨t.states + states, t.extra + extra⟩
  if after.memory ≤ footprintLimit then some (t.states, after) else none

/-- One state. -/
def state : Layout Nat := grow 1 0

/-- So many more branches. -/
def branch (n : Nat) : Layout Unit := do
  let _ ← grow 0 (n * branchSize)

/-- Goes on from a part. -/
def leave (p : Part) : Layout Unit := if p.branches then branch 1 else pure ()

/-- A part that is a single state. -/
def lone : Layout Part := do
  let n ← state
  return ⟨n, n, false⟩

/-- Repeats a part so many times after `p`. -/
def follow (one : Layout Part) : Nat → Part → Layout Part
  | 0, p => fun t => some (p, t)
  | n + 1, p => fun t =>
    match one t with
    | none => none
    | some (q, t) =>
      match leave p t with
      | none => none
      | some (_, t) => follow one n { q with start := p.start } t

/-- Parts one after another, after `p`. -/
def followAll : List (Layout Part) → Part → Layout Part
  | [], p => return p
  | one :: rest, p => do
    let q ← one
    leave p
    followAll rest { q with start := p.start }

/-- Parts one after another. -/
def inRow : List (Layout Part) → Layout Part
  | [] => lone
  | one :: rest => do followAll rest (← one)

/-- A part so many times. -/
def exactly (one : Layout Part) : Nat → Layout Part
  | 0 => lone
  | n + 1 => do follow one n (← one)

/-- A part or nothing. -/
def optional (one : Layout Part) : Layout Part := do
  let fork ← state
  let p ← one
  let stop ← state
  branch 2
  leave p
  return ⟨fork, stop, false⟩

/-- A part any number of times, at least `least`.  A part that may take nothing
is laid out so that it is entered once more only by way of its end. -/
def unbounded (one : Layout Part) (takes : Bool) : Nat → Layout Part
  | 0 =>
    if takes then do
      let fork ← state
      let p ← one
      branch 1
      leave p
      return ⟨fork, fork, true⟩
    else do
      let p ← one
      leave p
      let fork ← grow 2 0
      let stop ← state
      branch 4
      return ⟨fork + 1, stop, false⟩
  | 1 => do
    let p ← one
    let fork ← state
    leave p
    branch 1
    return ⟨p.start, fork, true⟩
  | n + 2 => do
    let before ← exactly one (n + 1)
    let p ← one
    let fork ← state
    leave before
    leave p
    branch 1
    return ⟨before.start, fork, true⟩

/-- A part up to so many times more after `p`; each time may be the last. -/
def upTo (one : Layout Part) : Nat → Part → Layout Part
  | 0, p => fun t => some (p, t)
  | n + 1, p => fun t =>
    match (do let _ ← state; let q ← one; leave p; branch 2; return q : Layout Part) t with
    | none => none
    | some (q, t) => upTo one n { q with start := p.start } t

/-- A part between `least` and `most` times. -/
def bounded (one : Layout Part) (least most : Nat) : Layout Part := do
  let before ← exactly one least
  if least = most then return before
  else
    let stop ← state
    let last ← upTo one (most - least) before
    leave last
    return ⟨before.start, stop, false⟩

/-- More parts to choose from. -/
def chooseAll : List (Layout Part) → Layout Unit
  | [] => return ()
  | one :: rest => do
    let p ← one
    branch 1
    leave p
    chooseAll rest

/-- Parts to choose from. -/
def oneOf : List (Layout Part) → Layout Part
  | [] => lone
  | [one] => one
  | one :: two :: rest => do
    let p ← one
    let q ← two
    let fork ← state
    let stop ← state
    branch 2
    leave p
    leave q
    chooseAll rest
    return ⟨fork, stop, false⟩

end Layout
end Pattern
end Remedy
