/-
# Binary floating point, exactly

A finite value is `± m · 2 ^ e` with `m < 2 ^ 53` and `-1074 ≤ e ≤ 971`.
`ofDecimal` rounds `d · 10 ^ k` to the nearest such value, a tie to the even
significand; nothing is approximated on the way, all comparisons are between
natural numbers.
-/

import Remedy.Text.Numeral

namespace Remedy

/-- A binary64 value. -/
inductive Binary64 where
  | nan
  | infinite (negative : Bool)
  | finite (negative : Bool) (significand : Nat) (exponent : Int)
  deriving DecidableEq, Repr

namespace Binary64

/-- `n / d` rounded to the nearest integer, a tie to the even one. -/
def roundDivEven (n d : Nat) : Nat :=
  let q := n / d
  let r := n % d
  if 2 * r < d then q
  else if d < 2 * r then q + 1
  else if q % 2 = 0 then q else q + 1

/-- The floor of the binary logarithm of `n / d`. -/
def log2Div (n d : Nat) : Int :=
  let k : Int := (n.log2 : Int) - d.log2
  if d * Nat.pow 2 k.toNat ≤ n * Nat.pow 2 (-k).toNat then k else k - 1

/-- The least exponent of a finite value. -/
def minExponent : Int := -1074

/-- The greatest exponent of a finite value. -/
def maxExponent : Int := 971

/-- The value nearest to `± n / d`, where `n` and `d` are positive. -/
def ofRatio (negative : Bool) (n d : Nat) : Binary64 :=
  let e := max minExponent (log2Div n d - 52)
  let m := roundDivEven (n * Nat.pow 2 (-e).toNat) (d * Nat.pow 2 e.toNat)
  let (m, e) := if m = Nat.pow 2 53 then (Nat.pow 2 52, e + 1) else (m, e)
  if maxExponent < e then .infinite negative else .finite negative m e

/-- How many decimal digits a number has. -/
def decimalLength (n : Nat) : Nat := (Nat.toDigits 10 n).length

/-- The value nearest to `± d · 10 ^ k`.  Beyond the range of all finite
values the power of ten is not computed. -/
def ofDecimal (negative : Bool) (d : Nat) (k : Int) : Binary64 :=
  let magnitude := k + decimalLength d
  if d = 0 || magnitude < -330 then .finite negative 0 minExponent
  else if 310 < magnitude then .infinite negative
  else ofRatio negative (d * Nat.pow 10 k.toNat) (Nat.pow 10 (-k).toNat)

/-- The exponent that ends a decimal text: none, or `e` and a signed number. -/
def exponent? : List Char → Option Int
  | [] => some 0
  | c :: rest =>
    if c = 'e' || c = 'E' then
      match rest with
      | '-' :: digits => (Text.digitsValue? digits).map fun n => -(n : Int)
      | _ => (Text.digitsValue? (Text.dropPlus rest)).map fun n => (n : Int)
    else none

/-- The fraction that follows a whole part, and the rest. -/
def fraction : List Char → List Char × List Char
  | '.' :: rest => (rest.takeWhile Char.isDigit, rest.dropWhile Char.isDigit)
  | rest => ([], rest)

/-- An unsigned decimal text: digits with at most one point among them and at
least one digit, perhaps an exponent. -/
def readDecimal? (negative : Bool) (cs : List Char) : Option Binary64 :=
  let whole := cs.takeWhile Char.isDigit
  let (part, rest) := fraction (cs.dropWhile Char.isDigit)
  if whole.isEmpty && part.isEmpty then none
  else
    (exponent? rest).map fun e =>
      ofDecimal negative (Text.digitsValue (whole ++ part)) (e - part.length)

/-- An unsigned text: a decimal, an infinity or a NaN, in any case. -/
def readUnsigned? (negative : Bool) (cs : List Char) : Option Binary64 :=
  let word := String.ofList (cs.map Char.toLower)
  if word = "inf" || word = "infinity" then some (.infinite negative)
  else if word = "nan" then some .nan
  else readDecimal? negative cs

/-- The value that a text denotes. -/
def read? : List Char → Option Binary64
  | '-' :: rest => readUnsigned? true rest
  | '+' :: rest => readUnsigned? false rest
  | cs => readUnsigned? false cs

/-- The nearest natural number, a tie away from zero, kept within `[0, limit]`;
nothing is the nearest to a NaN, which gives zero. -/
def toNatWithin (limit : Nat) : Binary64 → Nat
  | .nan => 0
  | .infinite negative => if negative then 0 else limit
  | .finite negative m e =>
    if negative then 0
    else min limit
      ((2 * (m * Nat.pow 2 e.toNat) + Nat.pow 2 (-e).toNat) / (2 * Nat.pow 2 (-e).toNat))

end Binary64
end Remedy
