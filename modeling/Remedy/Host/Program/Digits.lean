/-
# Real numbers in formats

How a value of 64 bits is written with a number of decimal places, with an exponent,
with a number of digits, or in hexadecimal.  All digits are exact: what does not fit
is rounded to the nearest, a tie to the even digit.
-/

import Remedy.Host.Path
import Remedy.Number.Binary64

namespace Remedy
namespace Host
namespace Program
namespace Digits

open Binary64 (roundDivEven)

/-- The size of a significand and an exponent, times a power of ten, rounded. -/
def scaled (m : Nat) (e power : Int) : Nat :=
  roundDivEven (m * Nat.pow 2 e.toNat * Nat.pow 10 power.toNat)
    (Nat.pow 2 (-e).toNat * Nat.pow 10 (-power).toNat)

/-- Digits with a point before the last so many of them; the point is written if any
follow it, or if it is asked for. -/
def withPoint (places : Nat) (always : Bool) (n : Nat) : Octets :=
  let ds := Nat.toDigits 10 n
  let ds := List.replicate (places + 1 - ds.length) '0' ++ ds
  let whole := ds.take (ds.length - places)
  if places = 0 then (if always then whole ++ ['.'] else whole)
  else whole ++ '.' :: ds.drop (ds.length - places)

/-- With a number of decimal places. -/
def fixed (m : Nat) (e : Int) (places : Nat) (always : Bool) : Octets :=
  withPoint places always (scaled m e places)

/-- An exponent as it is written. -/
def exponent (letter : Char) (width : Nat) (x : Int) : Octets :=
  let ds := Nat.toDigits 10 x.natAbs
  letter :: (if x < 0 then '-' else '+') :: List.replicate (width - ds.length) '0' ++ ds

/-- The decimal exponent of a value that is rounded to a digit and some places, and
all its digits. -/
def rounded (m : Nat) (e : Int) (places : Nat) : Int × Nat :=
  if m = 0 then (0, 0)
  else
    let size := m * Nat.pow 2 e.toNat * Nat.pow 10 400 / Nat.pow 2 (-e).toNat
    let x : Int := (Binary64.decimalLength size : Int) - 401
    let n := scaled m e (places - x)
    if Nat.pow 10 (places + 1) ≤ n then (x + 1, scaled m e (places - x - 1)) else (x, n)

/-- With one digit before the point, a number of places, and an exponent. -/
def scientific (m : Nat) (e : Int) (places : Nat) (always : Bool) : Octets :=
  let (x, n) := rounded m e places
  withPoint places always n ++ exponent 'e' 2 x

/-- A decimal with a point, without the zeros at its end. -/
def trimmed (cs : Octets) : Octets :=
  if cs.contains '.' then
    let cs := (cs.reverse.dropWhile (· = '0')).reverse
    if cs.getLast? = some '.' then cs.dropLast else cs
  else cs

/-- With a number of digits in all, in the shorter of the two ways. -/
def general (m : Nat) (e : Int) (digits : Nat) (always : Bool) : Octets :=
  let digits := max digits 1
  let (x, n) := rounded m e (digits - 1)
  let trim (cs : Octets) : Octets := if always then cs else trimmed cs
  if x < -4 ∨ (digits : Int) ≤ x then
    trim (withPoint (digits - 1) always n) ++ exponent 'e' 2 x
  else trim (fixed m e (digits - 1 - x).toNat always)

/-- In hexadecimal: all digits there are, or so many places. -/
def hexadecimal (m : Nat) (e : Int) (places : Option Nat) (always : Bool) : Octets :=
  let e : Int := if m = 0 then -52 else e
  let (m, power) : Nat × Int :=
    match places with
    | some p =>
      if p < 13 then (roundDivEven m (Nat.pow 16 (13 - p)) * Nat.pow 16 (13 - p), e + 52)
      else (m, e + 52)
    | none => (m, e + 52)
  let whole := m / Nat.pow 2 52
  let ds := Nat.toDigits 16 (m % Nat.pow 2 52)
  let ds := List.replicate (13 - ds.length) '0' ++ ds
  let ds :=
    match places with
    | some p => ds.take p ++ List.replicate (p - 13) '0'
    | none => (ds.reverse.dropWhile (· = '0')).reverse
  Nat.toDigits 16 whole ++ (if ds.isEmpty && !always then [] else '.' :: ds) ++ exponent 'p' 1 power

end Digits
end Program
end Host
end Remedy
