/-
# The shortest decimal of a binary64 value

`shortest` finds the fewest digits that read back as the value, and of several
such decimals the nearest to it.  With `n` digits only two decimals have to be
looked at, the neighbours of the value on the grid of `n`-digit decimals.

Values are written positionally, however large or small, and a whole number
without a point.
-/

import Remedy.Number.Binary64

namespace Remedy
namespace Binary64

/-- A decimal `digits · 10 ^ power`. -/
structure Decimal where
  digits : Nat
  power : Int
  deriving DecidableEq, Repr

/-- The reals that round to `m · 2 ^ e`, in units of `2 ^ (e - 2)`: the lower
and the upper bound.  Just above a power of two the values below lie closer. -/
def interval (m : Nat) (e : Int) : Nat × Nat :=
  (if m = Nat.pow 2 52 ∧ minExponent < e then 4 * m - 1 else 4 * m - 2, 4 * m + 2)

/-- The floor of the decimal logarithm of `m · 2 ^ e`, for a positive `m`. -/
def log10 (m : Nat) (e : Int) : Int :=
  (decimalLength (m * Nat.pow 2 e.toNat * Nat.pow 10 400 / Nat.pow 2 (-e).toNat) : Int) - 401

/-- The decimal `c · 10 ^ k` with `c ≤ 10 ^ n`; ten to the `n` is written with
one digit. -/
def onGrid (n c : Nat) (k : Int) : Decimal := if c = Nat.pow 10 n then ⟨1, k + n⟩ else ⟨c, k⟩

/-- The `n`-digit decimal that reads back as `m · 2 ^ e`, if there is one: the
nearer of the two neighbours where both do, the upper one at a tie. -/
def nearest? (m : Nat) (e : Int) (n : Nat) : Option Decimal :=
  let k := log10 m e - n + 1
  let q := e - 2
  let s := Nat.pow 10 k.toNat * Nat.pow 2 (-q).toNat
  let t := Nat.pow 2 q.toNat * Nat.pow 10 (-k).toNat
  let (low, high) := interval m e
  let inside (c : Nat) : Bool :=
    if m % 2 = 0 then low * t ≤ c * s && c * s ≤ high * t else low * t < c * s && c * s < high * t
  let below := 4 * m * t / s
  let above := below + 1
  if inside below && inside above then
    some (onGrid n (if 4 * m * t - below * s < above * s - 4 * m * t then below else above) k)
  else if inside below then some (onGrid n below k)
  else if inside above then some (onGrid n above k)
  else none

/-- The first hit among `n`, `n + 1`, … digits, `more` grids at most. -/
def shortestFrom (m : Nat) (e : Int) (n : Nat) : Nat → Decimal
  | 0 => ⟨m * Nat.pow 2 e.toNat, 0⟩
  | more + 1 => (nearest? m e n).getD (shortestFrom m e (n + 1) more)

/-- The shortest decimal of `m · 2 ^ e`; seventeen digits always suffice. -/
def shortest (m : Nat) (e : Int) : Decimal :=
  if m = 0 then ⟨0, 0⟩ else shortestFrom m e 1 17

/-- A decimal written positionally. -/
def Decimal.positional (d : Decimal) : String :=
  let ds := Nat.toDigits 10 d.digits
  let places := (-d.power).toNat
  String.ofList <|
    if 0 ≤ d.power then (if d.digits = 0 then ['0'] else ds ++ List.replicate d.power.toNat '0')
    else if places < ds.length then
      ds.take (ds.length - places) ++ '.' :: ds.drop (ds.length - places)
    else '0' :: '.' :: List.replicate (places - ds.length) '0' ++ ds

/-- The text of a value. -/
def toText : Binary64 → String
  | .nan => "NaN"
  | .infinite negative => if negative then "-inf" else "inf"
  | .finite negative m e =>
    (if negative then "-" else "") ++ (shortest m e).positional

/-- The text of a value, a whole number marked by `.0`. -/
def toPointedText : Binary64 → String
  | .finite negative m e =>
    let text := toText (.finite negative m e)
    if text.contains '.' then text else text ++ ".0"
  | x => toText x

end Binary64
end Remedy
