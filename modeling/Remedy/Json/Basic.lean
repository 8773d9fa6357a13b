/-
# JSON values

A record keeps its members in the order they were written.  `compact` prints a
value on one line without blanks; texts are written as they are, apart from the
quote, the backslash and the controls below the blank.
-/

namespace Remedy

/-- A JSON value.  Numbers with a fraction or an exponent are apart from the
integers: `real m k` is `m · 10 ^ k`. -/
inductive Json where
  | null
  | bool (b : Bool)
  | int (n : Int)
  | real (mantissa : Int) (exponent : Int)
  | text (s : String)
  | list (items : List Json)
  | record (members : List (String × Json))
  deriving Repr

namespace Json

/-- A natural number as a value. -/
def nat (n : Nat) : Json := .int n

/-- A value that may be missing. -/
def ofOption {α : Type} (f : α → Json) : Option α → Json
  | none => .null
  | some a => f a

/-- A list of texts. -/
def texts (ss : List String) : Json := .list (ss.map .text)

/-- The member of a record with this name; the last one where a name repeats. -/
def lookup (members : List (String × Json)) (name : String) : Option Json :=
  (members.reverse.find? fun m => m.1 == name).map (·.2)

/-- The member of a value with this name. -/
def member? : Json → String → Option Json
  | .record members, name => lookup members name
  | _, _ => none

/-- The value at a name, replaced by `f` of it. -/
def update (name : String) (f : Json → Json) : Json → Json
  | .record members => .record (members.map fun m => if m.1 == name then (m.1, f m.2) else m)
  | j => j

/-- A hexadecimal digit. -/
def hexDigit (n : Nat) : Char := Nat.digitChar n

/-- A character within a quoted text. -/
def escapeChar (c : Char) : List Char :=
  match c with
  | '"' => ['\\', '"']
  | '\\' => ['\\', '\\']
  | '\n' => ['\\', 'n']
  | '\r' => ['\\', 'r']
  | '\t' => ['\\', 't']
  | '\x08' => ['\\', 'b']
  | '\x0c' => ['\\', 'f']
  | c =>
    if c.toNat < 0x20 then ['\\', 'u', '0', '0', hexDigit (c.toNat / 16), hexDigit (c.toNat % 16)]
    else [c]

/-- A text between quotes. -/
def quote (s : String) : String :=
  String.ofList ('"' :: s.toList.flatMap escapeChar ++ ['"'])

/-- Texts with a comma between each two. -/
def commas (ss : List String) : String := ",".intercalate ss

mutual

/-- A value on one line, without blanks. -/
def compact : Json → String
  | .null => "null"
  | .bool b => if b then "true" else "false"
  | .int n => toString n
  | .real m k => toString m ++ "e" ++ toString k
  | .text s => quote s
  | .list items => "[" ++ commas (compactItems items) ++ "]"
  | .record members => "\x7b" ++ commas (compactMembers members) ++ "\x7d"

/-- The items of a list, printed. -/
def compactItems : List Json → List String
  | [] => []
  | j :: rest => compact j :: compactItems rest

/-- The members of a record, printed. -/
def compactMembers : List (String × Json) → List String
  | [] => []
  | (name, j) :: rest => (quote name ++ ":" ++ compact j) :: compactMembers rest

end

end Json
end Remedy
