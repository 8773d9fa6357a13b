/-
# How large a pattern becomes

A pattern is refused when one of the two automata for it takes too much memory:
the one that reads a text forward, which also remembers the texts of groups, and
the one that reads it backward.  `Regex.fits` lays both of them out.

A set of characters beyond ASCII becomes paths of bytes.  Forward, paths share
their beginnings and their ends; backward, only their first bytes.  Which states
are there to be shared is looked up in a table of so many slots, where a later
entry takes the place of an earlier one in the same slot.
-/

import Remedy.Pattern.BytePath
import Remedy.Pattern.Layout
import Remedy.Pattern.Regex
import Std.Data.HashMap

namespace Remedy
namespace Pattern

/-- The direction in which a text is read. -/
inductive Direction where
  | forward
  | backward
  deriving DecidableEq, Repr

/-- A range of bytes and the state that it leads to. -/
structure Edge where
  bytes : ByteRange
  next : Nat
  deriving DecidableEq, Repr

/-- States to share, by the slot of what they stand for. -/
abbrev Shared (α : Type) : Type := Std.HashMap Nat (α × Nat)

/-- The state that stands for something, if its slot tells. -/
def Shared.find? {α : Type} [DecidableEq α] (s : Shared α) (slot : Nat) (a : α) : Option Nat :=
  match s.get? slot with
  | some (b, id) => if a = b then some id else none
  | none => none

/-- Mixes a number into a hash. -/
def mixHash (h : UInt64) (n : Nat) : UInt64 := (h ^^^ n.toUInt64) * 1099511628211

/-- The slot of some numbers among so many. -/
def slotOf (slots : Nat) (ns : List Nat) : Nat :=
  (ns.foldl mixHash 14695981039346656037).toNat % slots

/-- A state on the way of the last path, whose last edge is still to be closed. -/
structure OpenState where
  edges : List Edge
  last : Option ByteRange

/-- Laying out paths forward, with the states that may be shared. -/
abbrev Weaving (α : Type) : Type := StateT (Shared (List Edge)) Layout α

namespace Weaving

/-- How many slots there are for states with all their edges. -/
def slots : Nat := 10000

/-- The state with these edges. -/
def settle (edges : List Edge) : Weaving Nat := fun shared => do
  let slot := slotOf slots (edges.flatMap fun e => [e.bytes.1, e.bytes.2, e.next])
  match shared.find? slot edges with
  | some id => return (id, shared)
  | none =>
    let id ← Layout.grow 1 (transitionSize * edges.length)
    return (id, shared.insert slot (edges, id))

/-- The edges of a state whose last edge leads to `next`. -/
def close (s : OpenState) (next : Nat) : List Edge :=
  match s.last with
  | some bytes => s.edges ++ [⟨bytes, next⟩]
  | none => s.edges

/-- Closes a chain of states that ends at `target`, from its end; the state that
it begins with. -/
def closeAll (target : Nat) : List OpenState → Weaving Nat
  | [] => return target
  | s :: rest => do
    let next ← closeAll target rest
    settle (close s next)

/-- Adds a path.  As long as it goes the way of the last path it shares its
states; the rest of the last path is closed. -/
def addPath (target : Nat) : List OpenState → List ByteRange → Weaving (List OpenState)
  | s :: rest, r :: path =>
    if s.last = some r then do
      return s :: (← addPath target rest path)
    else do
      let next ← closeAll target rest
      return ⟨close s next, some r⟩ :: path.map fun r => ⟨[], some r⟩
  | states, _ => return states

/-- Adds paths. -/
def addPaths (target : Nat) : List (List ByteRange) → List OpenState → Weaving (List OpenState)
  | [], states => return states
  | path :: rest, states => do addPaths target rest (← addPath target states path)

end Weaving

/-- The paths of a set, forward. -/
def weave (paths : List (List ByteRange)) : Layout Part := do
  let target ← Layout.state
  let (start, _) ← (do
    Weaving.closeAll target (← Weaving.addPaths target paths [⟨[], none⟩]) : Weaving Nat) ∅
  return ⟨start, target, false⟩

/-- How many slots there are for states with one edge. -/
def edgeSlots : Nat := 1000

/-- A path backward: its first byte comes last. -/
def addBackward : List ByteRange → Nat → Shared Edge → Layout (Shared Edge)
  | [], _, shared => do
    Layout.branch 1
    return shared
  | r :: path, next, shared =>
    let slot := slotOf edgeSlots [next, r.1, r.2]
    match shared.find? slot ⟨r, next⟩ with
    | some id => addBackward path id shared
    | none => do
      let id ← Layout.state
      addBackward path id (shared.insert slot (⟨r, next⟩, id))

/-- Paths backward. -/
def addAllBackward (target : Nat) : List (List ByteRange) → Shared Edge → Layout Unit
  | [], _ => return ()
  | path :: rest, shared => do addAllBackward target rest (← addBackward path target shared)

/-- The paths of a set, backward. -/
def unweave (paths : List (List ByteRange)) : Layout Part := do
  let start ← Layout.state
  let target ← Layout.state
  addAllBackward target paths ∅
  return ⟨start, target, false⟩

/-- A set of characters. -/
def layoutSet (d : Direction) (s : Character.Ranges) : Layout Part :=
  if s.all fun r => r.2 < 0x80 then do
    let target ← Layout.state
    let start ← Layout.grow 1 (transitionSize * s.length)
    return ⟨start, target, false⟩
  else
    match d with
    | .forward => weave (pathsOfSet s)
    | .backward => unweave (pathsOfSet s)

/-- The bytes that encode characters. -/
def encoding (cs : List Char) : List UInt8 := cs.flatMap String.utf8EncodeChar

/-- One state for each byte of a text. -/
def layoutText (cs : List Char) : Layout Part := do
  let size := (encoding cs).length
  let first ← Layout.grow size 0
  return ⟨first, first + size - 1, false⟩

/-- Words cut where one of them has ended, each piece without the ended words. -/
def cutAtEnds : List (List UInt8) → List (List (List UInt8))
  | [] => [[]]
  | [] :: rest => [] :: cutAtEnds rest
  | w :: rest =>
    match cutAtEnds rest with
    | piece :: more => (w :: piece) :: more
    | [] => [[w]]

/-- The pieces of words.  Words that end before any other has begun count as one. -/
def piecesOf (words : List (List UInt8)) : List (List (List UInt8)) :=
  match words with
  | [] :: rest => [] :: cutAtEnds (rest.dropWhile (·.isEmpty))
  | words => cutAtEnds words

/-- The words that begin with a byte, without it. -/
def afterByte (words : List (List UInt8)) (b : UInt8) : List (List UInt8) :=
  words.filterMap fun w => if w.head? = some b then some w.tail else none

/-- The states and the memory besides of a tree of words, below the state where
these are still to be read.  The words' lengths bound its depth. -/
def treeSize : Nat → List (List UInt8) → Nat × Nat
  | 0, _ => (0, 0)
  | depth + 1, words =>
    let pieces := piecesOf words
    let sizes := pieces.map fun piece =>
      let bytes := (piece.filterMap List.head?).eraseDups
      let below := bytes.map fun b =>
        let rest := afterByte piece b
        if rest.all (·.isEmpty) then (0, 0) else treeSize depth rest
      let own :=
        match bytes.length with
        | 0 => (0, 0)
        | 1 => (1, branchSize)
        | n => (1, transitionSize * n + branchSize)
      below.foldl (fun a b => (a.1 + b.1, a.2 + b.2)) own
    sizes.foldl (fun a b => (a.1 + b.1, a.2 + b.2)) (1, branchSize * (pieces.length - 1))

/-- The text that an expression is. -/
def Regex.text? : Regex → Option (List Char)
  | .text cs => some cs
  | _ => none

/-- Texts to choose from, as a tree of words. -/
def layoutTexts (d : Direction) (texts : List (List Char)) : Layout Part := do
  let words := texts.map fun cs =>
    match d with
    | .forward => encoding cs
    | .backward => (encoding cs).reverse
  let (states, extra) := treeSize ((words.map List.length).foldl max 0 + 1) words
  let target ← Layout.state
  let first ← Layout.grow states extra
  return ⟨first + states - 1, target, false⟩

mutual

/-- An expression. -/
def Regex.layout (d : Direction) : Regex → Layout Part
  | .empty => Layout.lone
  | .text cs => layoutText cs
  | .set s => layoutSet d s
  | .look _ => Layout.lone
  | .group r =>
    match d with
    | .forward => do
      let start ← Layout.state
      let p ← r.layout d
      let stop ← Layout.state
      Layout.leave p
      return ⟨start, stop, false⟩
    | .backward => r.layout d
  | .rep r least most _ =>
    let one := r.layout d
    match most with
    | none => Layout.unbounded one (r.fewest.any (0 < ·)) least
    | some most =>
      if least = 0 && most = 1 then Layout.optional one else Layout.bounded one least most
  | .row parts =>
    let parts := Regex.layouts d parts
    Layout.inRow (match d with | .forward => parts | .backward => parts.reverse)
  | .choice branches =>
    match branches.mapM Regex.text? with
    | some texts => layoutTexts d texts
    | none => Layout.oneOf (Regex.layouts d branches)

/-- Expressions one by one. -/
def Regex.layouts (d : Direction) : List Regex → List (Layout Part)
  | [] => []
  | r :: rest => r.layout d :: Regex.layouts d rest

end

/-- What passes the text before a match.  Where every match begins at the start
of the text there is nothing to pass. -/
def layoutLead (anchored : Bool) : Layout Part :=
  if anchored then Layout.lone
  else do
    let fork ← Layout.state
    let _ ← Layout.state
    let _ ← Layout.grow 1 (transitionSize + branchSize)
    return ⟨fork, fork, true⟩

/-- The whole automaton: what passes the text before a match, the match as a
group of its own, and the state that it ends in. -/
def Regex.automaton (d : Direction) (r : Regex) : Layout Unit := do
  let lead ← layoutLead
    (match d with
    | .forward => r.opensWith .textStart
    | .backward => r.closesWith .textEnd)
  let p ← (Regex.group r).layout d
  let _ ← Layout.state
  Layout.leave p
  Layout.leave lead

/-- How many texts there have to be to choose from before they are searched for
without an automaton. -/
def manyTexts : Nat := 3000

/-- Whether an expression is a choice between very many texts. -/
def Regex.isManyTexts : Regex → Bool
  | .choice branches => manyTexts ≤ branches.length && (branches.mapM Regex.text?).isSome
  | _ => false

/-- Whether both automata for an expression can be laid out. -/
def Regex.fits (r : Regex) : Bool :=
  r.isManyTexts
    || (((r.automaton .forward) ⟨0, 0⟩).isSome && ((r.automaton .backward) ⟨0, 0⟩).isSome)

end Pattern
end Remedy
