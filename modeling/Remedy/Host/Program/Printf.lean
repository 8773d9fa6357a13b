/-
# Formatted printing

A format is read into directives; it is used over again as long as there are
arguments left and a directive that takes any.  There are two of these as well, the
one built into the shell and the program; they differ in what they say.
-/

import Remedy.Host.Program.Digits
import Remedy.Host.Program.Echo
import Remedy.Host.Program.Real

namespace Remedy
namespace Host
namespace Program
namespace Printf

/-- A width or a precision: a number, or the next argument. -/
inductive Amount where
  | given (n : Nat)
  | argument

/-- A piece of a format. -/
inductive Directive where
  | text (cs : Octets)
  /-- A conversion, with the text that it is written as. -/
  | convert (flags : List Char) (width precision : Option Amount) (kind : Char) (cs : Octets)
  | broken (cs : Octets)

/-- Reads an amount, if there is one. -/
def amount (cs : Octets) : Option Amount × Octets :=
  match cs with
  | '*' :: rest => (some .argument, rest)
  | _ =>
    let digits := cs.takeWhile Char.isDigit
    (if digits.isEmpty then none else some (.given (Text.digitsValue digits)),
      cs.drop digits.length)

/-- Whether a character is a flag. -/
def isFlag (c : Char) : Bool := c = '-' || c = '+' || c = ' ' || c = '#' || c = '0'

/-- The directive after a percent sign, and what follows it. -/
def directive (cs : Octets) : Directive × Octets :=
  let flags := cs.takeWhile isFlag
  let (width, rest) := amount (cs.drop flags.length)
  let (precision, rest) :=
    match rest with
    | '.' :: rest =>
      let (p, rest) := amount rest
      (some (p.getD (.given 0)), rest)
    | rest => (none, rest)
  match rest with
  | [] => (.broken ('%' :: cs), [])
  | k :: rest =>
    (.convert flags width precision k ('%' :: cs.take (cs.length - rest.length)), rest)

/-- The directives of a format, as far as a number of steps goes. -/
def directivesFrom : Nat → Octets → List Directive
  | 0, _ => []
  | _ + 1, [] => []
  | n + 1, '%' :: '%' :: rest => .text ['%'] :: directivesFrom n rest
  | n + 1, '%' :: rest =>
    let (d, rest) := directive rest
    d :: directivesFrom n rest
  | n + 1, cs =>
    let text := cs.takeWhile (· != '%')
    .text text :: directivesFrom n (cs.drop text.length)

/-- The directives of a format; each takes up at least one character. -/
def directives (format : Octets) : List Directive := directivesFrom (format.length + 1) format

/-- A text brought to a width. -/
def padded (flags : List Char) (width : Nat) (cs : Octets) : Octets :=
  let blanks := List.replicate (width - cs.length) ' '
  if flags.contains '-' then cs ++ blanks else blanks ++ cs

/-- A number with its sign and what else comes before it, brought to a width. -/
def signed (flags : List Char) (width : Nat) (zeros : Bool) (sign ds : Octets) : Octets :=
  let filling :=
    if zeros && flags.contains '0' && !flags.contains '-' then
      List.replicate (width - sign.length - ds.length) '0'
    else []
  padded flags width (sign ++ filling ++ ds)

/-- The digits of a whole number, at least so many. -/
def digits (base : Nat) (precision : Option Nat) (n : Nat) : Octets :=
  let ds := if n = 0 ∧ precision = some 0 then [] else Nat.toDigits base n
  List.replicate (precision.getD 1 - ds.length) '0' ++ ds

/-- The sign that is printed of a number. -/
def signOf (flags : List Char) (negative : Bool) : Octets :=
  if negative then ['-'] else if flags.contains '+' then ['+']
  else if flags.contains ' ' then [' '] else []

/-- A whole number as one of the kinds of conversion prints it. -/
def whole (flags : List Char) (width : Nat) (precision : Option Nat) (kind : Char) (n : Int) :
    Octets :=
  let number (sign ds : Octets) : Octets := signed flags width precision.isNone sign ds
  let k := n.natAbs
  let isMarked := flags.contains '#'
  match kind with
  | 'u' => number [] (digits 10 precision k)
  | 'o' =>
    let ds := digits 8 precision k
    number [] (if isMarked && ds.head? != some '0' then '0' :: ds else ds)
  | 'x' => number (if isMarked && k != 0 then ['0', 'x'] else []) (digits 16 precision k)
  | 'X' =>
    number (if isMarked && k != 0 then ['0', 'X'] else [])
      ((digits 16 precision k).map Char.toUpper)
  | _ => number (signOf flags (decide (n < 0))) (digits 10 precision k)

/-- A number of 64 bits as one of the kinds of conversion prints it. -/
def real (flags : List Char) (width : Nat) (precision : Option Nat) (kind : Char)
    (negativeNan : Bool) (x : Binary64) : Octets :=
  let always := flags.contains '#'
  let places := precision.getD 6
  let text :=
    match x with
    | .nan => signed flags width false (signOf flags negativeNan) "nan".toList
    | .infinite negative => signed flags width false (signOf flags negative) "inf".toList
    | .finite negative m e =>
      let number (lead ds : Octets) : Octets :=
        signed flags width true (signOf flags negative ++ lead) ds
      match kind.toLower with
      | 'f' => number [] (Digits.fixed m e places always)
      | 'e' => number [] (Digits.scientific m e places always)
      | 'g' => number [] (Digits.general m e places always)
      | _ => number ['0', 'x'] (Digits.hexadecimal m e precision always)
  if kind.isUpper then text.map Char.toUpper else text

/-- What there is while a format is used. -/
structure Progress where
  /-- Whether the one of the shell is at work. -/
  isShell : Bool
  text : Octets
  args : List Octets
  /-- What was wrong with arguments. -/
  complaints : List Octets
  /-- A sequence in an argument has ended all output. -/
  ended : Bool
  /-- A directive was not one. -/
  malformed : Bool

namespace Progress

/-- Takes the next argument. -/
def take (p : Progress) : Option Octets × Progress :=
  match p.args with
  | [] => (none, p)
  | a :: rest => (some a, { p with args := rest })

/-- Adds a complaint. -/
def complain (p : Progress) (message : Octets) : Progress :=
  { p with complaints := p.complaints ++ [message] }

/-- Ends with a complaint about the format. -/
def giveUp (p : Progress) (message : Octets) : Progress :=
  { p.complain message with ended := true, malformed := true }

/-- Checks how far an argument was read. -/
def check (p : Progress) (a : Octets) (rest : Option Octets) (isOut : Bool) : Progress :=
  let shown := if p.isShell then a else quoted a
  match rest with
  | none =>
    if a.isEmpty then p
    else
      p.complain (shown ++
        (if p.isShell then ": expected numeric value" else ": expected a numeric value").toList)
  | some rest =>
    if !rest.isEmpty then
      p.complain (shown ++
        (if p.isShell then ": not completely converted"
          else ": value not completely converted").toList)
    else if isOut then p.complain (shown ++ ": Numerical result out of range".toList)
    else p

/-- The code of the character after a quote that an argument begins with. -/
def code? : Octets → Option Nat
  | '\'' :: rest | '"' :: rest => some ((rest.head?.map Char.toNat).getD 0)
  | _ => none

/-- Takes a whole number, which has a sign or is brought into 64 bits without one. -/
def takeWhole (p : Progress) (hasSign : Bool) : Int × Progress :=
  match p.take with
  | (none, p) => (0, p)
  | (some a, p) =>
    match code? a, leadingInteger? true a with
    | some n, _ => (n, p)
    | none, none => (0, p.check a none false)
    | none, some (n, rest) =>
      if hasSign then (toLong n, p.check a (some rest) (!isLong n))
      else
        let isOut := UInt64.size ≤ n.natAbs
        (if isOut then (UInt64.size - 1 : Nat) else n % UInt64.size, p.check a (some rest) isOut)

/-- Takes a number with a fraction, and says whether it has a minus. -/
def takeReal (p : Progress) : Binary64 × Bool × Progress :=
  match p.take with
  | (none, p) => (.finite false 0 Binary64.minExponent, false, p)
  | (some a, p) =>
    match code? a, Real.leading? a with
    | some n, _ => (Binary64.ofDecimal false n 0, false, p)
    | none, none => (.finite false 0 Binary64.minExponent, false, p.check a none false)
    | none, some (r, rest) =>
      let (x, isOut) := r.toBinary64
      let negative : Bool :=
        match r with
        | .nan negative => negative
        | _ => false
      (x, negative, p.check a (some rest) isOut)

/-- Takes an amount, which may be the next argument. -/
def amount (p : Progress) : Option Amount → Option Int × Progress
  | none => (none, p)
  | some (.given n) => (some n, p)
  | some .argument =>
    let (n, p) := p.takeWhole true
    (some n, p)

/-- Prints. -/
def print (p : Progress) (text : Octets) : Progress := { p with text := p.text ++ text }

/-- Uses a directive. -/
def use (p : Progress) : Directive → Progress
  | .text cs =>
    let (text, ended) := (formatEscapes p.isShell).decode cs
    { p.print text with ended := ended }
  | .broken cs =>
    p.giveUp (if p.isShell then "missing format character".toList
      else cs ++ ": invalid conversion specification".toList)
  | .convert flags width precision kind cs =>
    let (width, p) := p.amount width
    let (precision, p) := p.amount precision
    let flags := if width.getD 0 < 0 then '-' :: flags else flags
    let width := (width.getD 0).natAbs
    let precision := (precision.filter fun n => 0 ≤ n).map Int.toNat
    let cut (cs : Octets) : Octets :=
      match precision with
      | some n => cs.take n
      | none => cs
    match kind with
    | 's' =>
      let (a, p) := p.take
      p.print (padded flags width (cut (a.getD [])))
    | 'c' =>
      let (a, p) := p.take
      let a := a.getD []
      p.print (padded flags width (if a.isEmpty then ['\x00'] else a.take 1))
    | 'b' =>
      let (a, p) := p.take
      let (text, ended) := (if p.isShell then shellEscapes else programEscapes).decode (a.getD [])
      { p.print (padded flags width (cut text)) with ended := ended }
    | 'd' | 'i' =>
      let (n, p) := p.takeWhole true
      p.print (whole flags width precision kind n)
    | 'u' | 'o' | 'x' | 'X' =>
      let (n, p) := p.takeWhole false
      p.print (whole flags width precision kind n)
    | 'f' | 'F' | 'e' | 'E' | 'g' | 'G' | 'a' | 'A' =>
      let (x, negative, p) := p.takeReal
      p.print (real flags width precision kind negative x)
    | _ =>
      p.giveUp (cs ++
        (if p.isShell then ": invalid directive"
          else ": invalid conversion specification").toList)

/-- Uses all directives once, unless output ends. -/
def pass (ds : List Directive) (p : Progress) : Progress :=
  ds.foldl (fun p d => if p.ended then p else p.use d) p

/-- Uses a format over again while that takes arguments. -/
def repeatWhileTaking (ds : List Directive) : Nat → Progress → Progress
  | 0, p => p
  | n + 1, p =>
    let q := p.pass ds
    if q.ended || q.args.isEmpty || q.args.length == p.args.length then q
    else q.repeatWhileTaking ds n

/-- The status that it ends with. -/
def status (p : Progress) : Nat :=
  if p.complaints.isEmpty then 0 else if p.malformed && p.isShell then 2 else 1

end Progress

/-- Uses a format with arguments. -/
def run (isShell : Bool) (format : Octets) (args : List Octets) : Progress :=
  (⟨isShell, [], args, [], false, false⟩ : Progress).repeatWhileTaking (directives format)
    (args.length + 1)

/-- Formatted printing as a program. -/
def body : Body := fun c m =>
  let args :=
    match c.args with
    | ['-', '-'] :: rest => rest
    | args => args
  match args with
  | [] => c.refuse 1 ("missing operand".toList ++ seeHelp c.caller) m
  | format :: args =>
    let p := run false format args
    let m := p.complaints.foldl (fun m t => m.complain c.process (c.caller ++ ": ".toList ++ t)) m
    let (status, m) := c.print p.text m
    (max p.status status, m)

end Printf
end Program
end Host
end Remedy
