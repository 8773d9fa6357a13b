/-
# Reading JSON

A value is read off the front of a text, and what follows it is handed back.
Every step takes at least one character, so a budget of as many steps as the
text has characters is never used up; `read?` gives that budget.
-/

import Remedy.Json.Basic
import Remedy.Text.Numeral

namespace Remedy
namespace Json

/-- The blanks of the format. -/
def isGap (c : Char) : Bool := c = ' ' || c = '\t' || c = '\n' || c = '\r'

/-- A text without the blanks it begins with. -/
def skip (cs : List Char) : List Char := cs.dropWhile isGap

/-- The rest after an expected word. -/
def after? : List Char → List Char → Option (List Char)
  | [], cs => some cs
  | w :: ws, c :: cs => if w = c then after? ws cs else none
  | _ :: _, [] => none

/-- The value of a hexadecimal digit of either case. -/
def hexValue? (c : Char) : Option Nat :=
  if c.isDigit then some (c.toNat - 0x30)
  else if 'a' ≤ c && c ≤ 'f' then some (c.toNat - 0x57)
  else if 'A' ≤ c && c ≤ 'F' then some (c.toNat - 0x37)
  else none

/-- Four hexadecimal digits. -/
def unit? : List Char → Option (Nat × List Char)
  | a :: b :: c :: d :: rest => do
    let a ← hexValue? a
    let b ← hexValue? b
    let c ← hexValue? c
    let d ← hexValue? d
    return (4096 * a + 256 * b + 16 * c + d, rest)
  | _ => none

/-- The character of a `\u` escape; a high surrogate needs a low one after it. -/
def escaped? (cs : List Char) : Option (Char × List Char) := do
  let (high, rest) ← unit? cs
  if 0xD800 ≤ high && high < 0xDC00 then
    let rest ← after? ['\\', 'u'] rest
    let (low, rest) ← unit? rest
    if 0xDC00 ≤ low && low < 0xE000 then
      return (Char.ofNat (0x10000 + 1024 * (high - 0xD800) + (low - 0xDC00)), rest)
    else none
  else if 0xDC00 ≤ high && high < 0xE000 then none
  else return (Char.ofNat high, rest)

/-- The character that a backslash and a letter stand for. -/
def letterEscape? : Char → Option Char
  | '"' => some '"'
  | '\\' => some '\\'
  | '/' => some '/'
  | 'b' => some '\x08'
  | 'f' => some '\x0c'
  | 'n' => some '\n'
  | 'r' => some '\r'
  | 't' => some '\t'
  | _ => none

/-- A text up to its closing quote; what has been read is carried reversed. -/
def readText : Nat → List Char → List Char → Option (String × List Char)
  | 0, _, _ => none
  | _ + 1, done, '"' :: rest => some (String.ofList done.reverse, rest)
  | budget + 1, done, '\\' :: 'u' :: rest => do
    let (c, rest) ← escaped? rest
    readText budget (c :: done) rest
  | budget + 1, done, '\\' :: c :: rest => do
    let c ← letterEscape? c
    readText budget (c :: done) rest
  | budget + 1, done, c :: rest =>
    if c.toNat < 0x20 then none else readText budget (c :: done) rest
  | _ + 1, _, [] => none

/-- The exponent of a number, if it has one. -/
def readExponent : List Char → Option (Int × List Char)
  | [] => none
  | c :: rest =>
    if c = 'e' || c = 'E' then
      let (negative, digits) :=
        match rest with
        | '-' :: ds => (true, ds)
        | '+' :: ds => (false, ds)
        | ds => (false, ds)
      (Text.digitsValue? (digits.takeWhile Char.isDigit)).map fun n =>
        (if negative then -(n : Int) else n, digits.dropWhile Char.isDigit)
    else none

/-- The fraction of a number, if it has one. -/
def readFraction : List Char → Option (List Char × List Char)
  | '.' :: rest =>
    let digits := rest.takeWhile Char.isDigit
    if digits.isEmpty then none else some (digits, rest.dropWhile Char.isDigit)
  | _ => none

/-- Gives a number its sign. -/
def signed (negative : Bool) (n : Nat) : Int := if negative then -(n : Int) else n

/-- A number after its sign.  Zero with a minus is not an integer, because integers
have only one zero. -/
def readNumber (negative : Bool) (cs : List Char) : Option (Json × List Char) := do
  let whole := cs.takeWhile Char.isDigit
  let rest := cs.dropWhile Char.isDigit
  let n ← Text.digitsValue? whole
  match readFraction rest with
  | some (digits, rest) =>
    let m := signed negative (Text.digitsValue (whole ++ digits))
    match readExponent rest with
    | some (e, rest) => return (.real m (e - digits.length), rest)
    | none => return (.real m (-digits.length), rest)
  | none =>
    match readExponent rest with
    | some (e, rest) => return (.real (signed negative n) e, rest)
    | none => return (if negative && n = 0 then .real 0 0 else .int (signed negative n), rest)

mutual

/-- A value off the front. -/
def readValue : Nat → List Char → Option (Json × List Char)
  | 0, _ => none
  | budget + 1, cs =>
    match skip cs with
    | '"' :: rest => (readText (rest.length + 1) [] rest).map fun (s, rest) => (.text s, rest)
    | '[' :: rest =>
      match skip rest with
      | ']' :: rest => some (.list [], rest)
      | rest => (readItems budget rest).map fun (items, rest) => (.list items, rest)
    | '\x7b' :: rest =>
      match skip rest with
      | '\x7d' :: rest => some (.record [], rest)
      | rest => (readMembers budget rest).map fun (members, rest) => (.record members, rest)
    | '-' :: rest => readNumber true rest
    | 't' :: rest => (after? ['r', 'u', 'e'] rest).map fun rest => (.bool true, rest)
    | 'f' :: rest => (after? ['a', 'l', 's', 'e'] rest).map fun rest => (.bool false, rest)
    | 'n' :: rest => (after? ['u', 'l', 'l'] rest).map fun rest => (.null, rest)
    | rest => readNumber false rest

/-- The items of a list, up to its end. -/
def readItems : Nat → List Char → Option (List Json × List Char)
  | 0, _ => none
  | budget + 1, cs => do
    let (j, rest) ← readValue budget cs
    match skip rest with
    | ',' :: rest =>
      let (items, rest) ← readItems budget rest
      return (j :: items, rest)
    | ']' :: rest => return ([j], rest)
    | _ => none

/-- The members of a record, up to its end. -/
def readMembers : Nat → List Char → Option (List (String × Json) × List Char)
  | 0, _ => none
  | budget + 1, cs =>
    match skip cs with
    | '"' :: rest => do
      let (name, rest) ← readText (rest.length + 1) [] rest
      let rest ← after? [':'] (skip rest)
      let (j, rest) ← readValue budget rest
      match skip rest with
      | ',' :: rest =>
        let (members, rest) ← readMembers budget rest
        return ((name, j) :: members, rest)
      | '\x7d' :: rest => return ([(name, j)], rest)
      | _ => none
    | _ => none

end

/-- The value that a text holds, with nothing but blanks around it. -/
def read? (s : String) : Option Json :=
  match readValue (s.length + 1) s.toList with
  | some (j, rest) => if (skip rest).isEmpty then some j else none
  | none => none

end Json
end Remedy
