/-
# Arithmetic of the shell

Expressions over 64-bit integers and variables.  An expression is evaluated while it
is read, so that of several things that are wrong the first one counts.  What is not
to be evaluated, as the other branch of a choice, is only read.
-/

import Remedy.Host.Program.Basic

namespace Remedy
namespace Host
namespace Shell
namespace Arithmetic

/-- A symbol of an expression. -/
inductive Symbol where
  | number (n : Int)
  | name (cs : Octets)
  | operator (s : String)
  /-- Anything else. -/
  | unknown
  deriving DecidableEq, Repr

/-- The operators, the longer ones first. -/
def operators : List String := ["<<=", ">>=", "<<", ">>", "<=", ">=", "==", "!=", "&&", "||", "+=",
  "-=", "*=", "/=", "%=", "&=", "|=", "^=", "+", "-", "*", "/", "%", "<", ">", "!", "~", "&", "|",
  "^", "?", ":", "=", "(", ")"]

/-- The symbols of a text, as far as a number of steps goes, up to the first one
that is unknown. -/
def symbolsFrom : Nat → Octets → List Symbol
  | 0, _ => []
  | _ + 1, [] => []
  | n + 1, c :: cs =>
    if c = ' ' ∨ c = '\t' ∨ c = '\n' then symbolsFrom n cs
    else if c.isDigit then
      match Program.leadingInteger? true (c :: cs) with
      | some (v, rest) => .number (Program.toLong v) :: symbolsFrom n rest
      | none => [.unknown]
    else if c.isAlpha ∨ c = '_' then
      let name := (c :: cs).takeWhile fun c => c.isAlphanum || c = '_'
      .name name :: symbolsFrom n ((c :: cs).drop name.length)
    else
      match operators.find? fun s => s.toList.isPrefixOf (c :: cs) with
      | some s => .operator s :: symbolsFrom n ((c :: cs).drop s.length)
      | none => [.unknown]

/-- The symbols of a text. -/
def symbols (cs : Octets) : List Symbol := symbolsFrom (cs.length + 1) cs

/-- How loosely a binary operator binds; none for other symbols. -/
def looseness? : String → Option Nat
  | "*" | "/" | "%" => some 0
  | "+" | "-" => some 1
  | "<<" | ">>" => some 2
  | "<" | "<=" | ">" | ">=" => some 3
  | "==" | "!=" => some 4
  | "&" => some 5
  | "^" => some 6
  | "|" => some 7
  | _ => none

/-- The binary operator that symbols begin with, and how loosely it binds. -/
def binary? : List Symbol → Option (String × Nat)
  | .operator s :: _ => (looseness? s).map fun l => (s, l)
  | _ => none

/-- The operator that an assignment applies first; none for other symbols. -/
def assignment? : String → Option String
  | "=" => some ""
  | "+=" => some "+"
  | "-=" => some "-"
  | "*=" => some "*"
  | "/=" => some "/"
  | "%=" => some "%"
  | "&=" => some "&"
  | "|=" => some "|"
  | "^=" => some "^"
  | "<<=" => some "<<"
  | ">>=" => some ">>"
  | _ => none

/-- What is wrong with an expression. -/
inductive Fault where
  | malformed (message : String)
  | notANumber (value : Octets)
  | constant (name : Octets)
  /-- The quotient is too large, which kills the process. -/
  | overflow
  deriving DecidableEq, Repr

/-- What the shell says of a fault in an expression. -/
def Fault.message (cs : Octets) : Fault → Octets
  | malformed message => ("arithmetic expression: " ++ message ++ ": \"").toList ++ cs ++ ['"']
  | notANumber v => "Illegal number: ".toList ++ v
  | constant name => name ++ ": is read only".toList
  | overflow => []

/-- A value brought into 64 bits. -/
def wrap (n : Int) : Int := n.bmod UInt64.size

/-- A truth as a number. -/
def truth (b : Bool) : Int := if b then 1 else 0

/-- What a binary operator gives. -/
def combine (s : String) (a b : Int) : Except Fault Int :=
  let bits (f : Nat → Nat → Nat) : Int :=
    wrap (f (a % UInt64.size).toNat (b % UInt64.size).toNat)
  let divide (f : Int → Int → Int) : Except Fault Int :=
    if b = 0 then .error (.malformed "division by zero")
    else if a = -(Nat.pow 2 63 : Nat) ∧ b = -1 then .error .overflow
    else .ok (f a b)
  match s with
  | "*" => .ok (wrap (a * b))
  | "/" => divide Int.tdiv
  | "%" => divide Int.tmod
  | "+" => .ok (wrap (a + b))
  | "-" => .ok (wrap (a - b))
  | "<<" => .ok (wrap (a * Nat.pow 2 (b % 64).toNat))
  | ">>" => .ok (Int.fdiv a (Nat.pow 2 (b % 64).toNat))
  | "<" => .ok (truth (decide (a < b)))
  | "<=" => .ok (truth (decide (a ≤ b)))
  | ">" => .ok (truth (decide (b < a)))
  | ">=" => .ok (truth (decide (b ≤ a)))
  | "==" => .ok (truth (a == b))
  | "!=" => .ok (truth (a != b))
  | "&" => .ok (bits Nat.land)
  | "^" => .ok (bits Nat.xor)
  | _ => .ok (bits Nat.lor)

/-- The variables that an expression is about. -/
structure Scope where
  value? : Octets → Option Octets
  isConstant : Octets → Bool
  /-- What the expression has assigned, the last of it first. -/
  assigned : List (Octets × Octets)

namespace Scope

/-- The number that a variable holds. -/
def number (s : Scope) (name : Octets) : Except Fault Int :=
  let cs := ((s.assigned.lookup name).orElse fun _ => s.value? name).getD []
  match Program.leadingInteger? true cs with
  | some (n, rest) =>
    if Program.isLong n ∧ rest.all Program.isBlank then .ok n else .error (.notANumber cs)
  | none => if cs.all Program.isBlank then .ok 0 else .error (.notANumber cs)

/-- Assigns a number. -/
def assign (s : Scope) (name : Octets) (n : Int) : Except Fault Scope :=
  if s.isConstant name then .error (.constant name)
  else .ok { s with assigned := (name, Octets.ofInt n) :: s.assigned }

end Scope

/-- What stands at the beginning of symbols is worth, and what is left of them. -/
abbrev Result := Except Fault (Int × List Symbol × Scope)

mutual

/-- An assignment, or an expression without one at its front. -/
def assignment : Nat → Bool → List Symbol → Scope → Result
  | 0, _, _, _ => .error (.malformed "expecting primary")
  | n + 1, idle, symbols, s =>
    match symbols with
    | .name x :: .operator o :: rest =>
      match assignment? o with
      | some op => do
        let (b, rest, s) ← assignment n idle rest s
        if idle then return (b, rest, s)
        let v ← if op = "" then pure b else combine op (← s.number x) b
        return (v, rest, ← s.assign x v)
      | none => choice n idle symbols s
    | _ => choice n idle symbols s

/-- A choice between two values. -/
def choice : Nat → Bool → List Symbol → Scope → Result
  | 0, _, _, _ => .error (.malformed "expecting primary")
  | n + 1, idle, symbols, s => do
    let (a, rest, s) ← disjunction n idle symbols s
    match rest with
    | .operator "?" :: rest =>
      let (b, rest, s) ← assignment n (idle || a == 0) rest s
      match rest with
      | .operator ":" :: rest =>
        let (c, rest, s) ← choice n (idle || a != 0) rest s
        return (if a ≠ 0 then b else c, rest, s)
      | _ => .error (.malformed "expecting ':'")
    | _ => return (a, rest, s)

/-- Values of which one has to be true. -/
def disjunction : Nat → Bool → List Symbol → Scope → Result
  | 0, _, _, _ => .error (.malformed "expecting primary")
  | n + 1, idle, symbols, s => do
    let (a, rest, s) ← conjunction n idle symbols s
    match rest with
    | .operator "||" :: rest =>
      let (b, rest, s) ← disjunction n (idle || a != 0) rest s
      return (truth (a != 0 || b != 0), rest, s)
    | _ => return (a, rest, s)

/-- Values of which all have to be true. -/
def conjunction : Nat → Bool → List Symbol → Scope → Result
  | 0, _, _, _ => .error (.malformed "expecting primary")
  | n + 1, idle, symbols, s => do
    let (a, rest, s) ← primary n idle symbols s
    let (a, rest, s) ← climb n idle 8 a rest s
    match rest with
    | .operator "&&" :: rest =>
      let (b, rest, s) ← conjunction n (idle || a == 0) rest s
      return (truth (a != 0 && b != 0), rest, s)
    | _ => return (a, rest, s)

/-- What follows an operand, as long as operators bind more tightly than a bound. -/
def climb : Nat → Bool → Nat → Int → List Symbol → Scope → Result
  | 0, _, _, _, _, _ => .error (.malformed "expecting primary")
  | n + 1, idle, bound, a, symbols, s =>
    match binary? symbols with
    | some (o, l) =>
      if bound ≤ l then .ok (a, symbols, s)
      else do
        let (b, rest, s) ← primary n idle (symbols.drop 1) s
        let (b, rest, s) ← climb n idle l b rest s
        let v ← if idle then pure b else combine o a b
        climb n idle bound v rest s
    | none => .ok (a, symbols, s)

/-- An operand. -/
def primary : Nat → Bool → List Symbol → Scope → Result
  | 0, _, _, _ => .error (.malformed "expecting primary")
  | n + 1, idle, symbols, s =>
    match symbols with
    | .number v :: rest => .ok (v, rest, s)
    | .name x :: rest => do return (← if idle then pure 0 else s.number x, rest, s)
    | .operator "(" :: rest => do
      let (a, rest, s) ← assignment n idle rest s
      match rest with
      | .operator ")" :: rest => return (a, rest, s)
      | _ => .error (.malformed "expecting ')'")
    | .operator "+" :: rest => primary n idle rest s
    | .operator "-" :: rest => do
      let (a, rest, s) ← primary n idle rest s
      return (wrap (-a), rest, s)
    | .operator "!" :: rest => do
      let (a, rest, s) ← primary n idle rest s
      return (truth (a == 0), rest, s)
    | .operator "~" :: rest => do
      let (a, rest, s) ← primary n idle rest s
      return (-a - 1, rest, s)
    | _ => .error (.malformed "expecting primary")

end

/-- The value of a text, and what it assigns, the first of it first. -/
def value (cs : Octets) (s : Scope) : Except Fault (Int × List (Octets × Octets)) := do
  let symbols := symbols cs
  let (v, rest, s) ← assignment (8 * symbols.length + 16) false symbols s
  if rest.isEmpty then return (v, s.assigned.reverse)
  else .error (.malformed "expecting EOF")

end Arithmetic
end Shell
end Host
end Remedy
