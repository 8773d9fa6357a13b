/-
# Programs

A program takes its arguments, acts on the machine and ends with a status.  The
same program may be built into a shell; then its complaints begin with the name
of the script and the number of the line.
-/

import Remedy.Host.Opening
import Remedy.Text.Numeral

namespace Remedy
namespace Host
namespace Program

/-- A call of a program. -/
structure Call where
  /-- What complaints begin with. -/
  caller : Octets
  args : List Octets
  process : Process

/-- What a program does. -/
abbrev Body := Call → Machine → Nat × Machine

namespace Call

/-- Complains, and ends with a status. -/
def refuse (c : Call) (status : Nat) (message : Octets) (m : Machine) : Nat × Machine :=
  (status, m.complain c.process (c.caller ++ ": ".toList ++ message))

end Call

/-- What a refusal of the system is called. -/
def reason (r : Refusal) : Octets := r.coded.2.toList

/-- Prints, and ends well if that is possible. -/
def Call.print (c : Call) (text : Octets) (m : Machine) : Nat × Machine :=
  if text.isEmpty then (0, m)
  else
    match m.write c.process 1 text with
    | (.ok _, m) => (0, m)
    | (.error r, m) => c.refuse 1 ("write error: ".toList ++ reason r) m

/-- The letter that stands for a character after a backslash, where there is one. -/
def letterOf? (c : Char) : Option Char :=
  ([('\x07', 'a'), ('\x08', 'b'), ('\t', 't'), ('\n', 'n'), ('\x0b', 'v'), ('\x0c', 'f'),
    ('\r', 'r')] : List (Char × Char)).lookup c

/-- Whether a character is a visible one of ASCII, or a blank. -/
def isPrintable (c : Char) : Bool := ' ' ≤ c && c ≤ '~'

/-- A character that cannot be shown, as a sequence after a backslash. -/
def sequenceOf (c : Char) : Octets :=
  match letterOf? c with
  | some l => ['\\', l]
  | none =>
    let ds := Nat.toDigits 8 c.toNat
    '\\' :: List.replicate (3 - ds.length) '0' ++ ds

/-- A text between quotes, as programs show it: what cannot stand there is written
as a sequence. -/
def quoted (cs : Octets) : Octets :=
  let one (c : Char) : Octets :=
    if c = '\'' ∨ c = '\\' then ['\\', c] else if isPrintable c then [c] else sequenceOf c
  '\'' :: cs.flatMap one ++ ['\'']

/-- Runs of characters that can be shown and of others, each marked. -/
def runs : Octets → List (Bool × Octets)
  | [] => []
  | c :: rest =>
    let b := isPrintable c
    match runs rest with
    | (a, cs) :: more => if a = b then (a, c :: cs) :: more else (b, [c]) :: (a, cs) :: more
    | [] => [(b, [c])]

/-- Runs as a shell would read them back, from inside quotes or outside. -/
def quotedRuns : Bool → List (Bool × Octets) → Octets
  | inside, [] => if inside then ['\''] else []
  | inside, (true, cs) :: rest =>
    (if inside then [] else ['\'']) ++
      (cs.flatMap fun c => if c = '\'' then ['\'', '\\', '\'', '\''] else [c]) ++
      quotedRuns true rest
  | inside, (false, cs) :: rest =>
    (if inside then ['\''] else []) ++ ['$', '\''] ++ cs.flatMap sequenceOf ++ '\'' ::
      quotedRuns false rest

/-- A name between quotes, as a shell would read it back. -/
def named (cs : Octets) : Octets :=
  if cs.contains '\'' && cs.all isPrintable && !cs.any ("\"$`\\!".toList.contains ·) then
    '"' :: cs ++ ['"']
  else '\'' :: quotedRuns true (runs cs)

/-- What a program adds to a complaint about its use. -/
def seeHelp (name : Octets) : Octets :=
  "\nTry '".toList ++ name ++ " --help' for more information.".toList

/-- Whether an argument is an option. -/
def isOption (a : Octets) : Bool := a.head? == some '-' && 1 < a.length

/-- The arguments that are options, and those that are not; a double dash says that no
more options follow. -/
def divided (args : List Octets) : List Octets × List Octets :=
  let before := args.takeWhile (· != ['-', '-'])
  let (options, operands) := before.partition isOption
  (options, operands ++ args.drop (before.length + 1))

/-- What is said of an option where there are none. -/
def strange (option : Octets) : Octets :=
  match option with
  | '-' :: '-' :: _ => "unrecognized option '".toList ++ option ++ ['\'']
  | _ => "invalid option -- '".toList ++ (option.drop 1).take 1 ++ ['\'']

/-- The number that digits denote. -/
def natural? (cs : Octets) : Option Nat := Text.digitsValue? cs

/-- Whether a character is a blank before or after a number. -/
def isBlank (c : Char) : Bool :=
  c = ' ' || c = '\t' || c = '\n' || c = '\x0b' || c = '\x0c' || c = '\r'

/-- The value of a digit, in bases up to sixteen. -/
def digit? (c : Char) : Option Nat :=
  if '0' ≤ c ∧ c ≤ '9' then some (c.toNat - 48)
  else if 'a' ≤ c ∧ c ≤ 'f' then some (c.toNat - 87)
  else if 'A' ≤ c ∧ c ≤ 'F' then some (c.toNat - 55)
  else none

/-- Whether a character is a digit in a base. -/
def isDigitOf (base : Nat) (c : Char) : Bool := (digit? c).any (· < base)

/-- The number that digits denote in a base. -/
def valueIn (base : Nat) (ds : Octets) : Nat :=
  ds.foldl (fun n c => base * n + (digit? c).getD 0) 0

/-- The base of a numeral that tells its base by how it begins, and the digits. -/
def prefixed (cs : Octets) : Nat × Octets :=
  match cs with
  | '0' :: x :: d :: rest =>
    if (x = 'x' ∨ x = 'X') ∧ isDigitOf 16 d then (16, d :: rest)
    else if (x = 'b' ∨ x = 'B') ∧ isDigitOf 2 d then (2, d :: rest)
    else (8, cs)
  | '0' :: _ => (8, cs)
  | _ => (10, cs)

/-- The number that a text begins with after blanks, and what follows it; its base
may be told by how it begins. -/
def leadingInteger? (anyBase : Bool) (cs : Octets) : Option (Int × Octets) :=
  let (isNegative, body) : Bool × Octets :=
    match cs.dropWhile isBlank with
    | '-' :: rest => (true, rest)
    | '+' :: rest => (false, rest)
    | rest => (false, rest)
  let (base, body) := if anyBase then prefixed body else (10, body)
  let ds := body.takeWhile (isDigitOf base)
  if ds.isEmpty then none
  else
    let n : Int := valueIn base ds
    some (if isNegative then -n else n, body.drop ds.length)

/-- A number with an optional sign, between blanks. -/
def integer? (cs : Octets) : Option Int :=
  match leadingInteger? false cs with
  | some (n, rest) => if rest.all isBlank then some n else none
  | none => none

/-- Whether a number has 64 bits with a sign. -/
def isLong (n : Int) : Bool := -(Nat.pow 2 63 : Nat) ≤ n && n < (Nat.pow 2 63 : Nat)

/-- The number of 64 bits with a sign that is closest to a number. -/
def toLong (n : Int) : Int := max (-(Nat.pow 2 63 : Nat)) (min n (Nat.pow 2 63 - 1 : Nat))

end Program
end Host
end Remedy
