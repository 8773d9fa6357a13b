/-
# Decimal numerals

`digitsValue?` reads a non-empty run of ASCII digits.  A sign may stand before
it where the reader allows one, and a reader of bounded numbers refuses what
does not fit.  `readUnsigned` says which of these is wrong, and of several
faults the first.
-/

namespace Remedy
namespace Text

/-- The greatest 16-bit number. -/
def maxU16 : Nat := 65535

/-- The greatest 32-bit number. -/
def maxU32 : Nat := 4294967295

/-- The greatest 64-bit number. -/
def maxU64 : Nat := 18446744073709551615

/-- Extends a value by a digit. -/
def appendDigit (value : Nat) (c : Char) : Nat := 10 * value + (c.toNat - 0x30)

/-- The number a run of digits denotes, whatever zeros it begins with. -/
def digitsValue (cs : List Char) : Nat := cs.foldl appendDigit 0

/-- The number that a non-empty text of ASCII digits denotes. -/
def digitsValue? (cs : List Char) : Option Nat :=
  if cs ≠ [] ∧ cs.all Char.isDigit then some (digitsValue cs) else none

/-- A text without one leading `+`. -/
def dropPlus : List Char → List Char
  | '+' :: rest => rest
  | cs => cs

/-- A number up to `limit`: digits, perhaps after a `+`. -/
def unsigned? (limit : Nat) (cs : List Char) : Option Nat :=
  (digitsValue? (dropPlus cs)).filter (· ≤ limit)

/-- Why a text is no number of a bounded kind. -/
inductive NumeralFault where
  | empty
  | invalidDigit
  | tooLarge
  deriving DecidableEq, Repr

/-- How a fault is described. -/
def NumeralFault.message : NumeralFault → String
  | empty => "cannot parse integer from empty string"
  | invalidDigit => "invalid digit found in string"
  | tooLarge => "number too large to fit in target type"

/-- Reads on after digits that denote `value`. -/
def readDigits (limit value : Nat) : List Char → Except NumeralFault Nat
  | [] => .ok value
  | c :: rest =>
    if !c.isDigit then .error .invalidDigit
    else if limit < appendDigit value c then .error .tooLarge
    else readDigits limit (appendDigit value c) rest

/-- A number up to `limit`, or the first thing that is wrong with it. -/
def readUnsigned (limit : Nat) (cs : List Char) : Except NumeralFault Nat :=
  match cs with
  | [] => .error .empty
  | ['+'] => .error .invalidDigit
  | _ => readDigits limit 0 (dropPlus cs)

/-- A 64-bit signed number: digits, perhaps after a sign. -/
def signed? (cs : List Char) : Option Int :=
  match cs with
  | '-' :: rest => ((digitsValue? rest).filter (· ≤ Nat.pow 2 63)).map fun n => -(n : Int)
  | _ => ((digitsValue? (dropPlus cs)).filter (· < Nat.pow 2 63)).map fun n => (n : Int)

end Text
end Remedy
