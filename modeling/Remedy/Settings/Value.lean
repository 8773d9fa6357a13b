/-
# Values of settings

Settings are kept as a tree.  A value that was written out by someone is
*declared*, as opposed to one that had to be made up to hold others; complaints
say where a declared value comes from.

`asText`, `asBool` and `asUnsigned` convert a value to what a setting needs.
They are generous: a number will do for a text, and `yes` for a truth value or a
one.
-/

import Remedy.Character.Lowercase
import Remedy.Number.Shortest
import Remedy.Text.Escape

namespace Remedy
namespace Settings

/-- A value in the tree of settings. -/
inductive Value where
  | nil
  | bool (b : Bool)
  | int (n : Int)
  | float (x : Binary64)
  | text (s : String)
  | list (declared : Bool) (items : List Value)
  | table (members : List (String × Value))
  deriving Repr

/-- Why a value cannot be what a setting needs. -/
inductive Error where
  /-- A value of another kind; `key` is the setting, if it is to be named. -/
  | mistyped (found expected : String) (key : Option String) (declared : Bool)
  /-- A word that is none of those to choose from. -/
  | noVariant (choice word : String)
  /-- A value that is no choice at all. -/
  | noChoice (choice : String)
  deriving DecidableEq, Repr

namespace Error

/-- What is told about a value. -/
def message : Error → String
  | mistyped found expected key declared =>
    "invalid type: " ++ found ++ ", expected " ++ expected
      ++ (key.elim "" fun k => " for key " ++ "`" ++ k ++ "`")
      ++ (if declared then " in the environment" else "")
  | noVariant choice word =>
    "enum " ++ choice ++ " does not have variant constructor " ++ word
  | noChoice choice =>
    "value of enum " ++ choice ++
      " should be represented by either string or table with exactly one key"

/-- Names the setting that a value is for. -/
def named (key : String) : Error → Error
  | mistyped found expected _ declared => mistyped found expected (some key) declared
  | e => e

end Error

namespace Value

/-- Whether someone wrote the value out. -/
def declared : Value → Bool
  | nil => false
  | list d _ => d
  | table _ => false
  | _ => true

/-- Text between grave accents. -/
def ticked (s : String) : String := "`" ++ s ++ "`"

/-- What a value is, when it is not of the kind it has to be. -/
def described : Value → String
  | nil => "unit value"
  | bool b => "boolean " ++ ticked (toString b)
  | int n => "64-bit integer " ++ ticked (toString n)
  | float x => "floating point " ++ ticked x.toText
  | text s => "string " ++ Text.quoted s
  | list _ _ => "sequence"
  | table _ => "map"

/-- What a value is, when a list was needed. -/
def describedNotList : Value → String
  | int n => "integer " ++ ticked (toString n)
  | float x => "floating point " ++ ticked x.toPointedText
  | v => v.described

/-- A value of the wrong kind. -/
def mistyped {α : Type} (v : Value) (expected : String) : Except Error α :=
  .error (.mistyped v.described expected none v.declared)

/-- A text; numbers and truth values are written out. -/
def asText : Value → Except Error String
  | text s => .ok s
  | bool b => .ok (toString b)
  | int n => .ok (toString n)
  | float x => .ok x.toText
  | v => v.mistyped "a string"

/-- A truth value; a number is true unless it is zero. -/
def asBool : Value → Except Error Bool
  | bool b => .ok b
  | int n => .ok (n ≠ 0)
  | float x =>
    .ok (match x with
      | .finite _ m _ => m ≠ 0
      | _ => true)
  | text s =>
    let word := Character.lowercase s
    if ["1", "true", "on", "yes"].contains word then .ok true
    else if ["0", "false", "off", "no"].contains word then .ok false
    else (text word).mistyped "a boolean"
  | v => v.mistyped "a boolean"

/-- A natural number of 64 bits; a fraction goes to the nearest. -/
def asUnsigned : Value → Except Error Nat
  | bool b => .ok b.toNat
  | int n =>
    if 0 ≤ n then .ok n.toNat else (int n).mistyped "an unsigned 64 bit or less integer"
  | float x => .ok (x.toNatWithin Text.maxU64)
  | text s =>
    let word := Character.lowercase s
    if ["true", "on", "yes"].contains word then .ok 1
    else if ["false", "off", "no"].contains word then .ok 0
    else
      match Text.unsigned? Text.maxU64 s.toList with
      | some n => .ok n
      | none => (text s).mistyped "an integer"
  | v => v.mistyped "an integer"

/-- A natural number of 64 bits. -/
def asUInt64 (v : Value) : Except Error UInt64 := v.asUnsigned.map UInt64.ofNat

/-- A natural number of 16 bits. -/
def asUInt16 (v : Value) : Except Error UInt16 := do
  let n ← v.asUnsigned
  if n ≤ Text.maxU16 then .ok (UInt16.ofNat n)
  else
    .error (.mistyped ("64-bit unsigned integer " ++ ticked (toString n))
      "an unsigned 16 bit integer" none false)

/-- The items from number `n` on as texts; `name` is what the list is called. -/
def textsFrom (name : String) (n : Nat) : List Value → Except Error (List String)
  | [] => .ok []
  | v :: rest => do
    let s ← v.asText.mapError (Error.named (name ++ "[" ++ toString n ++ "]"))
    let ss ← textsFrom name (n + 1) rest
    .ok (s :: ss)

/-- A list of texts; `name` is what it is called. -/
def asTexts (name : String) : Value → Except Error (List String)
  | list _ items => textsFrom name 0 items
  | v => .error (.mistyped v.describedNotList "a sequence" none false)

/-- The choice that a word names, whatever its case. -/
def chosen {α : Type} (choice : String) (options : List (String × α)) (word : String) :
    Except Error α :=
  match options.find? fun o => Character.lowercase o.1 == Character.lowercase word with
  | some o => .ok o.2
  | none => .error (.noVariant choice word)

/-- One of the options: a text that names it, or a table with it as the only
key. -/
def asChoice {α : Type} (choice : String) (options : List (String × α)) :
    Value → Except Error α
  | text s => chosen choice options s
  | table [(key, _)] => chosen choice options key
  | _ => .error (.noChoice choice)

/-- The member of a table. -/
def member? (name : String) : Value → Option Value
  | table members => (members.find? fun m => m.1 == name).map (·.2)
  | _ => none

end Value
end Settings
end Remedy
