/-
# Conditions

The tests that are part of the shell.  Words are read from left to right; what a
word is depends on the words after it, so that `-f` alone is only a text.  A
reader keeps the last word that it has used, because that is the word it complains
about when others are left.
-/

import Remedy.Host.Program.Test

namespace Remedy
namespace Host
namespace Shell
namespace Condition

open Program.Test (Truth)

/-- What a word of a test is. -/
inductive Token where
  | ended
  | operand
  | unary
  | binary
  | negation
  | both
  | either
  | opening
  | closing
  deriving DecidableEq, Repr

/-- Whether something stands between two operands. -/
def isBinary (o : Octets) : Bool :=
  o = ['<'] || o = ['>'] || (Program.Test.isBinary o && o != ['=', '='])

/-- Whether something stands before one operand. -/
def isUnary (o : Octets) : Bool := Program.Test.isUnary o && o != ['-', 'N']

/-- What the first of some words is. -/
def token : List Octets → Token
  | [] => .ended
  | w :: rest =>
    if isUnary w then
      match rest with
      | [] => .operand
      | [_] => .unary
      | o :: _ :: _ => if isBinary o then .operand else .unary
    else if isBinary w then .binary
    else if w = ['!'] then .negation
    else if w = ['-', 'a'] then .both
    else if w = ['-', 'o'] then .either
    else if w = ['('] then (if rest.isEmpty then .operand else .opening)
    else if w = [')'] then .closing
    else .operand

/-- A number in a test. -/
def number (cs : Octets) : Except Program.Test.Malformed Int :=
  match Program.integer? cs with
  | some n =>
    if Program.isLong n then .ok n else .error ⟨"Illegal number: ".toList ++ cs⟩
  | none => .error ⟨"Illegal number: ".toList ++ cs⟩

/-- Where a reader of a test stands, and what it looks at there. -/
structure Sight where
  machine : Machine
  process : Process

namespace Sight

/-- A comparison that words begin with. -/
def comparison (s : Sight) (ws : List Octets) :
    Except Program.Test.Malformed (Bool × List Octets) :=
  match ws with
  | a :: o :: b :: rest => do
    let related := Program.Test.relate s.machine s.process
    return (← Program.Test.compare number related a o b, b :: rest)
  | [_, o] => .error ⟨o ++ ": argument expected".toList⟩
  | _ => .error ⟨"argument expected".toList⟩

/-- A question that words begin with. -/
def question (s : Sight) (ws : List Octets) :
    Except Program.Test.Malformed (Bool × List Octets) :=
  match ws with
  | o :: a :: rest => do
    if o = ['-', 't'] then
      let _ ← number a
    return (Program.Test.ask s.machine s.process o a, a :: rest)
  | o :: [] => .error ⟨o ++ ": argument expected".toList⟩
  | [] => .error ⟨"argument expected".toList⟩

mutual

/-- Tests of which one has to hold, the first of them from a given token on. -/
def alternatives (s : Sight) : Nat → Token → List Octets →
    Except Program.Test.Malformed (Bool × List Octets)
  | 0, _, _ => .error ⟨"too deep".toList⟩
  | n + 1, t, ws => do
    let (a, ws) ← s.conjunction n t ws
    if token (ws.drop 1) = .either then
      let ws := ws.drop 2
      let (b, ws) ← s.alternatives n (token ws) ws
      return (a || b, ws)
    else return (a, ws)

/-- Tests of which all have to hold. -/
def conjunction (s : Sight) : Nat → Token → List Octets →
    Except Program.Test.Malformed (Bool × List Octets)
  | 0, _, _ => .error ⟨"too deep".toList⟩
  | n + 1, t, ws => do
    let (a, ws) ← s.negation n t ws
    if token (ws.drop 1) = .both then
      let ws := ws.drop 2
      let (b, ws) ← s.conjunction n (token ws) ws
      return (a && b, ws)
    else return (a, ws)

/-- A test with its negations. -/
def negation (s : Sight) : Nat → Token → List Octets →
    Except Program.Test.Malformed (Bool × List Octets)
  | 0, _, _ => .error ⟨"too deep".toList⟩
  | n + 1, t, ws => do
    if t = .negation then
      let next := token (ws.drop 1)
      let (a, ws) ← s.negation n next (if next = .ended then ws else ws.drop 1)
      return (!a, ws)
    else s.primary n t ws

/-- A test without negations. -/
def primary (s : Sight) : Nat → Token → List Octets →
    Except Program.Test.Malformed (Bool × List Octets)
  | 0, _, _ => .error ⟨"too deep".toList⟩
  | n + 1, t, ws =>
    match t with
    | .ended => .ok (false, ws)
    | .opening => do
      let ws := ws.drop 1
      if token ws = .closing then return (false, ws)
      let (a, ws) ← s.alternatives n (token ws) ws
      let ws := ws.drop 1
      if token ws = .closing then return (a, ws)
      else throw ⟨"closing paren expected".toList⟩
    | .unary => s.question ws
    | _ =>
      if token (ws.drop 1) = .binary then s.comparison ws
      else .ok (ws.head?.any (!·.isEmpty), ws)

end

end Sight

/-- The truth of a test. -/
def truth (m : Machine) (p : Process) (ws : List Octets) : Truth :=
  if ws.isEmpty then .ok false
  else
    let bracketed : Bool :=
      (ws.length == 3 || ws.length == 4) && ws.head? == some ['('] && ws.getLast? == some [')']
    let inner := if bracketed then (ws.drop 1).dropLast else ws
    let first : Token × List Octets :=
      match ws with
      | [_, o, _] =>
        if isBinary o then (.operand, ws)
        else if !bracketed && ws.head? == some ['!'] then (.negation, ws)
        else (token inner, inner)
      | [a, _, _, _] =>
        if !bracketed && a == ['!'] then (.negation, ws) else (token inner, inner)
      | _ => (token ws, ws)
    do
      let (a, rest) ← (⟨m, p⟩ : Sight).alternatives (8 * ws.length + 8) first.1 first.2
      match rest with
      | w :: _ :: _ => .error ⟨w ++ ": unexpected operator".toList⟩
      | _ => return a

/-- A test of the shell. -/
def body (bracket : Bool) : Program.Body := Program.Test.body truth bracket "missing ]"

end Condition
end Shell
end Host
end Remedy
