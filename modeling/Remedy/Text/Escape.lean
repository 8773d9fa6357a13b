/-
# Escaped text

How untrusted text is shown: hidden characters become `\u` with the code point
in braces, the common controls and the backslash a backslash and a letter.
`quoted` puts the result between double quotes; within a quoted text a single
quote needs no escape, elsewhere both quotes have one.
-/

import Remedy.Character.Hidden

namespace Remedy
namespace Text

/-- The digits of a number in hexadecimal, small letters, no leading zeros. -/
def hexDigits (n : Nat) : List Char := Nat.toDigits 16 n

/-- A backslash and a character. -/
def backslash (c : Char) : List Char := ['\\', c]

/-- A code point spelled out. -/
def codePointEscape (c : Char) : List Char :=
  ['\\', 'u', '\x7b'] ++ hexDigits c.toNat ++ ['\x7d']

/-- The escape that every style shares; a quote is left as it is. -/
def escapeChar (c : Char) : List Char :=
  match c with
  | '\x00' => backslash '0'
  | '\t' => backslash 't'
  | '\r' => backslash 'r'
  | '\n' => backslash 'n'
  | '\\' => backslash '\\'
  | c => if Character.isHidden c then codePointEscape c else [c]

/-- The escape of a character within double quotes. -/
def escapeQuoted (c : Char) : List Char :=
  if c = '"' then backslash '"' else escapeChar c

/-- The escape of a character that stands in no quotes of its own. -/
def escapeBare (c : Char) : List Char :=
  if c = '"' || c = '\'' then backslash c else escapeChar c

/-- A text in double quotes with its escapes. -/
def quoted (s : String) : String :=
  String.ofList ('"' :: s.toList.flatMap escapeQuoted ++ ['"'])

end Text
end Remedy
