/-
# Tests

The conditions of `test` and `[` as programs: comparisons of texts and of numbers,
questions about files, and their combinations.  A test of up to four words is
settled by the number of its words; a longer one is read from left to right.  A
test is wrong with status 2 when it is malformed.
-/

import Remedy.Host.Program.Basic

namespace Remedy
namespace Host
namespace Program
namespace Test

/-- A test that is malformed. -/
structure Malformed where
  message : Octets

/-- The truth of a test, as far as it can be told. -/
abbrev Truth := Except Malformed Bool

/-- The comparisons of numbers. -/
def numeric? (o : Octets) : Option (Int → Int → Bool) :=
  match String.ofList o with
  | "-eq" => some fun x y => x == y
  | "-ne" => some fun x y => x != y
  | "-lt" => some fun x y => decide (x < y)
  | "-le" => some fun x y => decide (x ≤ y)
  | "-gt" => some fun x y => decide (y < x)
  | "-ge" => some fun x y => decide (y ≤ x)
  | _ => none

/-- Whether something stands between two operands. -/
def isBinary (o : Octets) : Bool :=
  (numeric? o).isSome || ["=", "==", "!=", "-nt", "-ot", "-ef"].any fun s => s.toList == o

/-- Whether something may stand before one operand. -/
def isUnary (o : Octets) : Bool :=
  match o with
  | ['-', c] => "bcdefghknoprstuwxzLOGNS".toList.contains c && c != 'o'
  | _ => false

/-- Whether something is shaped like what stands before one operand. -/
def isFlag (o : Octets) : Bool := o.length == 2 && o.head? == some '-'

/-- A comparison, by how numbers are read and files are related; only operands of a
comparison of numbers have to be numbers. -/
def compare (number : Octets → Except Malformed Int) (relate : Octets → Octets → Octets → Bool)
    (a o b : Octets) : Truth :=
  match numeric? o with
  | some f => do return f (← number a) (← number b)
  | none =>
    match String.ofList o with
    | "=" | "==" => .ok (a == b)
    | "!=" => .ok (a != b)
    | "<" => .ok (decide (a < b))
    | ">" => .ok (decide (b < a))
    | _ => .ok (relate a o b)

/-- The directories in which everybody may make files, but only remove their own. -/
def sharedDirectories : List Location :=
  [["tmp"], ["var", "tmp"], ["dev", "shm"], ["run", "lock"]]

/-- The directories whose files belong to the group of the directory. -/
def groupDirectories : List Location := [["var", "local"], ["var", "mail"]]

/-- A question about one operand. -/
def ask (m : Machine) (p : Process) (o a : Octets) : Bool :=
  match o with
  | ['-', 'n'] => !a.isEmpty
  | ['-', 'z'] => a.isEmpty
  | ['-', 'h'] | ['-', 'L'] => m.isLink p a
  | ['-', letter] =>
    match m.resolve p a with
    | .error _ => false
    | .ok (l, e) =>
      let kind := Machine.kindOf p l e
      let isPlain := kind = .regular && l.head? != some "proc"
      match letter with
      | 'e' | 'r' | 'w' | 'O' | 'G' => true
      | 'f' => kind = .regular
      | 'd' => kind = .directory
      | 'c' => kind = .character
      | 'p' => kind = .pipe
      | 'x' =>
        match e with
        | .file => false
        | _ => true
      | 's' =>
        kind = .directory || isPlain && match m.contents.lookup l with
          | some c => !c.text.isEmpty
          | none => true
      | 'k' => sharedDirectories.contains l
      | 'g' => groupDirectories.contains l
      | _ => false
  | _ => false

/-- Which of two paths leads to the newer file, or whether both lead to the same. -/
def relate (m : Machine) (p : Process) (a o b : Octets) : Bool :=
  match m.resolve p a, m.resolve p b with
  | .ok (l, _), .ok (k, _) =>
    let time (l : Location) : Nat := ((m.contents.lookup l).map fun c => c.changed + 1).getD 0
    match String.ofList o with
    | "-ef" => l = k
    | "-nt" => time k < time l
    | "-ot" => time l < time k
    | _ => false
  | _, _ => false

/-- A test where it is settled: its words, all of them and those that are left. -/
structure Sight where
  machine : Machine
  process : Process
  words : List Octets

namespace Sight

/-- What is wrong when the words are over too early. -/
def beyond (s : Sight) : Malformed :=
  ⟨"missing argument after ".toList ++ quoted (s.words.getLast?.getD [])⟩

/-- A number in a test. -/
def number (cs : Octets) : Except Malformed Int :=
  match integer? cs with
  | some n => .ok n
  | none => .error ⟨"invalid integer ".toList ++ quoted cs⟩

/-- A question that words begin with. -/
def question (s : Sight) (ws : List Octets) : Except Malformed (Bool × List Octets) :=
  match ws with
  | o :: rest =>
    if !isUnary o then .error ⟨quoted o ++ ": unary operator expected".toList⟩
    else
      match rest with
      | [] => .error s.beyond
      | a :: rest => do
        if o = ['-', 't'] then
          let _ ← number a
        return (ask s.machine s.process o a, rest)
  | [] => .error s.beyond

/-- The test that one word makes. -/
def ofOne (s : Sight) (ws : List Octets) : Except Malformed (Bool × List Octets) :=
  match ws with
  | a :: rest => .ok (!a.isEmpty, rest)
  | [] => .error s.beyond

/-- The test that two words make. -/
def ofTwo (s : Sight) (ws : List Octets) : Except Malformed (Bool × List Octets) :=
  match ws with
  | a :: rest =>
    if a = ['!'] then do
      let (t, rest) ← s.ofOne rest
      return (!t, rest)
    else if isFlag a then s.question ws
    else .error s.beyond
  | [] => .error s.beyond

mutual

/-- The test that so many words make, as far as a number of steps goes. -/
def ofCount (s : Sight) : Nat → Nat → List Octets → Except Malformed (Bool × List Octets)
  | 0, _, _ => .error s.beyond
  | n + 1, count, ws =>
    match count, ws with
    | 1, _ => s.ofOne ws
    | 2, _ => s.ofTwo ws
    | 3, _ => s.ofThree n ws
    | 4, a :: rest =>
      if a = ['!'] then do
        let (t, rest) ← s.ofThree n rest
        return (!t, rest)
      else if a = ['('] ∧ rest[2]? = some [')'] then do
        let (t, rest) ← s.ofTwo rest
        return (t, rest.drop 1)
      else s.alternatives n ws
    | _, _ => s.alternatives n ws

/-- The test that three words make. -/
def ofThree (s : Sight) : Nat → List Octets → Except Malformed (Bool × List Octets)
  | 0, _ => .error s.beyond
  | n + 1, ws =>
    match ws with
    | a :: o :: b :: rest =>
      if isBinary o then do return (← compare number (relate s.machine s.process) a o b, rest)
      else if a = ['!'] then do
        let (t, rest) ← s.ofTwo (o :: b :: rest)
        return (!t, rest)
      else if a = ['('] ∧ b = [')'] then do
        let (t, rest) ← s.ofOne (o :: b :: rest)
        return (t, rest.drop 1)
      else if o = ['-', 'a'] ∨ o = ['-', 'o'] then s.alternatives n ws
      else .error ⟨quoted o ++ ": binary operator expected".toList⟩
    | _ => .error s.beyond

/-- Tests of which one has to hold. -/
def alternatives (s : Sight) : Nat → List Octets → Except Malformed (Bool × List Octets)
  | 0, _ => .error s.beyond
  | n + 1, ws => do
    let (a, rest) ← s.conjunction n ws
    match rest with
    | ['-', 'o'] :: rest =>
      let (b, rest) ← s.alternatives n rest
      return (a || b, rest)
    | _ => return (a, rest)

/-- Tests of which all have to hold. -/
def conjunction (s : Sight) : Nat → List Octets → Except Malformed (Bool × List Octets)
  | 0, _ => .error s.beyond
  | n + 1, ws => do
    let (a, rest) ← s.term n ws
    match rest with
    | ['-', 'a'] :: rest =>
      let (b, rest) ← s.conjunction n rest
      return (a && b, rest)
    | _ => return (a, rest)

/-- One test among others. -/
def term (s : Sight) : Nat → List Octets → Except Malformed (Bool × List Octets)
  | 0, _ => .error s.beyond
  | n + 1, ws =>
    match ws with
    | [] => .error s.beyond
    | ['!'] :: rest => do
      let (t, rest) ← s.term n rest
      return (!t, rest)
    | ['('] :: rest => do
      if rest.isEmpty then throw s.beyond
      let inner := (rest.drop 1).takeWhile (· != [')'])
      let count := if inner.length < 4 then inner.length + 1 else rest.length
      let (t, rest) ← s.ofCount n count rest
      match rest with
      | [')'] :: rest => return (t, rest)
      | [] => throw ⟨"')' expected".toList⟩
      | found :: _ => throw ⟨"')' expected, found ".toList ++ quoted found⟩
    | ['-', 'l'] :: a :: o :: b :: rest =>
      if isBinary o then do
        return (← compare number (relate s.machine s.process) (Octets.ofNat a.length) o b, rest)
      else s.question ws
    | a :: rest =>
      match rest with
      | o :: b :: after =>
        if isBinary o then do return (← compare number (relate s.machine s.process) a o b, after)
        else if isFlag a then s.question ws
        else .ok (!a.isEmpty, rest)
      | _ => if isFlag a then s.question ws else .ok (!a.isEmpty, rest)

end

/-- The truth of a test. -/
def truth (s : Sight) : Truth :=
  match s.words with
  | [] => .ok false
  | ws => do
    let (t, rest) ← s.ofCount (4 * ws.length + 8) ws.length ws
    match rest with
    | [] => return t
    | r :: _ => .error ⟨"extra argument ".toList ++ quoted r⟩

end Sight

/-- A test that may need its closing bracket, by how the truth of its words is
told. -/
def body (truth : Machine → Process → List Octets → Truth) (bracket : Bool)
    (unclosed : String) : Body := fun c m =>
  let answer (ws : List Octets) : Nat × Machine :=
    match truth m c.process ws with
    | .ok t => (if t then 0 else 1, m)
    | .error e => c.refuse 2 e.message m
  if bracket then
    if c.args.getLast? = some [']'] then answer c.args.dropLast
    else c.refuse 2 unclosed.toList m
  else answer c.args

/-- A test as a program. -/
def program (bracket : Bool) : Body :=
  body (fun m p ws => (⟨m, p, ws⟩ : Sight).truth) bracket "missing ']'"

end Test
end Program
end Host
end Remedy
