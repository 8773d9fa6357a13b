/-
# Real numbers in arguments

A number with a fraction is given in decimal or, after `0x`, in hexadecimal, perhaps
with an exponent; `inf` and `nan` are numbers as well.  A number is kept as it is
given, a whole number times a power, until something is made of it.
-/

import Remedy.Host.Program.Basic
import Remedy.Number.Binary64

namespace Remedy
namespace Host
namespace Program

/-- A number as it is given: `digits` times a power of the base. -/
inductive Real where
  | nan (negative : Bool)
  | infinite (negative : Bool)
  | finite (negative : Bool) (digits base : Nat) (power : Int)

namespace Real

/-- Digits with at most one point among them, how many of them follow it, and what
follows them. -/
def pointed (base : Nat) (cs : Octets) : Octets × Nat × Octets :=
  let whole := cs.takeWhile (isDigitOf base)
  match cs.drop whole.length with
  | '.' :: rest =>
    let part := rest.takeWhile (isDigitOf base)
    if whole.isEmpty && part.isEmpty then ([], 0, cs)
    else (whole ++ part, part.length, rest.drop part.length)
  | rest => (whole, 0, rest)

/-- The exponent that a text begins with, if there is one after its letter. -/
def exponent (letter : Char) (cs : Octets) : Int × Octets :=
  match cs with
  | e :: rest =>
    if e.toLower = letter then
      let (sign, ds) : Int × Octets :=
        match rest with
        | '-' :: ds => (-1, ds)
        | '+' :: ds => (1, ds)
        | ds => (1, ds)
      let digits := ds.takeWhile Char.isDigit
      if digits.isEmpty then (0, cs)
      else (sign * Text.digitsValue digits, ds.drop digits.length)
    else (0, cs)
  | [] => (0, cs)

/-- Whether a text begins with a word in small letters, whatever its case. -/
def beginsWith (word : String) (cs : Octets) : Bool :=
  word.toList.isPrefixOf (cs.map Char.toLower)

/-- The number that a text begins with after its sign, and what follows it. -/
def unsigned? (negative : Bool) (cs : Octets) : Option (Real × Octets) :=
  let inBase (base perDigit powerBase : Nat) (letter : Char) (cs : Octets) :
      Option (Real × Octets) :=
    let (ds, places, rest) := pointed base cs
    if ds.isEmpty then none
    else
      let (e, rest) := exponent letter rest
      some (.finite negative (valueIn base ds) powerBase (e - (perDigit * places : Nat)), rest)
  if beginsWith "infinity" cs then some (.infinite negative, cs.drop 8)
  else if beginsWith "inf" cs then some (.infinite negative, cs.drop 3)
  else if beginsWith "nan" cs then
    let rest := cs.drop 3
    match rest with
    | '(' :: more =>
      let note := more.takeWhile fun c => c.isAlphanum || c = '_'
      match more.drop note.length with
      | ')' :: after => some (.nan negative, after)
      | _ => some (.nan negative, rest)
    | _ => some (.nan negative, rest)
  else
    match if beginsWith "0x" cs then inBase 16 4 2 'p' (cs.drop 2) else none with
    | some r => some r
    | none => inBase 10 1 10 'e' cs

/-- The number that a text begins with after blanks, and what follows it. -/
def leading? (cs : Octets) : Option (Real × Octets) :=
  match cs.dropWhile isBlank with
  | '-' :: rest => unsigned? true rest
  | '+' :: rest => unsigned? false rest
  | rest => unsigned? false rest

/-- How many digits of the base a number has before its point, about. -/
def magnitude (digits base : Nat) (power : Int) : Int :=
  power + if base = 2 then (digits.log2 : Int) else Binary64.decimalLength digits

/-- The size of a number as a quotient; one that is far out of reach is brought nearer. -/
def ratio (digits base : Nat) (power : Int) : Nat × Nat :=
  let size := magnitude digits base power
  if digits = 0 then (0, 1)
  else if 4000 < size then (Nat.pow 10 1000, 1)
  else if size < -4000 then (1, Nat.pow 10 1000)
  else (digits * Nat.pow base power.toNat, Nat.pow base (-power).toNat)

/-- The value of 64 bits that is nearest to a number, and whether the number is out of
their range. -/
def toBinary64 : Real → Binary64 × Bool
  | nan _ => (.nan, false)
  | infinite negative => (.infinite negative, false)
  | finite negative digits base power =>
    if digits = 0 then (.finite negative 0 Binary64.minExponent, false)
    else
      let (n, d) := ratio digits base power
      let x := Binary64.ofRatio negative n d
      match x with
      | .finite _ m e =>
        let isExact := m * Nat.pow 2 e.toNat * d = n * Nat.pow 2 (-e).toNat
        (x, m < Nat.pow 2 52 && !isExact)
      | x => (x, true)

end Real
end Program
end Host
end Remedy
