/-
# Escapes in patterns

What a backslash and the characters after it mean: a character, a set of
characters, or an assertion about the place in the text.
-/

import Remedy.Json.Reader
import Remedy.Pattern.Cursor

namespace Remedy
namespace Pattern

/-- What a single character or an escape stands for. -/
inductive Atom where
  | literal (l : Literal)
  | dot (span : Span)
  | assertion (span : Span) (kind : Assertion)
  | perl (span : Span) (kind : Perl) (negated : Bool)
  | property (span : Span) (query : Query) (negated : Bool)

namespace Atom

/-- Where an atom stands. -/
def span : Atom → Span
  | literal l => l.span
  | dot s => s
  | assertion s _ => s
  | perl s _ _ => s
  | property s _ _ => s

/-- The pattern that an atom is. -/
def toSyntax : Atom → Syntax
  | literal l => .literal l
  | dot s => .dot s
  | assertion s kind => .assertion s kind
  | perl s kind negated => .set (.perl s kind negated)
  | property s query negated => .set (.property s query negated)

end Atom

namespace Reader

/-- The characters with a meaning of their own. -/
def isMeta (c : Char) : Bool := "\\.+*?()|[]\x7b\x7d^$#&-~".toList.contains c

/-- Whether a backslash may stand before a character without need. -/
def isEscapable (c : Char) : Bool :=
  isMeta c || (decide (c.toNat < 0x80) && !c.isAlphanum && c ≠ '<' && c ≠ '>')

/-- The value of hexadecimal digits. -/
def hexValue (cs : List Char) : Nat :=
  cs.foldl (fun n c => 16 * n + (Json.hexValue? c).getD 0) 0

/-- Whether a character is a hexadecimal digit. -/
def isHex (c : Char) : Bool := (Json.hexValue? c).isSome

/-- The character with a code, unless there is none. -/
def scalar? (n : Nat) : Option Char :=
  if n.isValidChar then some (Char.ofNat n) else none

/-- Exactly as many hexadecimal digits. -/
def hexDigits : Nat → Reader (List Char)
  | 0 => return []
  | n + 1 => do
    match ← peek with
    | none => fail .escapeUnexpectedEnd (← here)
    | some c =>
      if isHex c then
        let _ ← advance
        return c :: (← hexDigits n)
      else fail .escapeHexInvalidDigit (← nextSpan)

/-- The hexadecimal digits up to a closing brace. -/
def bracedHexDigits (brace : Place) : Nat → Reader (List Char)
  | 0 => do fail .escapeUnexpectedEnd (← since brace)
  | budget + 1 => do
    match ← peek with
    | none => fail .escapeUnexpectedEnd (← since brace)
    | some c =>
      if c = '\x7d' then return []
      else if isHex c then
        let _ ← advance
        return c :: (← bracedHexDigits brace budget)
      else fail .escapeHexInvalidDigit (← nextSpan)

/-- A hexadecimal literal in braces, at its opening brace. -/
def bracedHex (start : Place) : Reader Atom := do
  let brace ← place
  let digitsStart := (← nextSpan).stop
  let _ ← advance
  let digits ← bracedHexDigits brace ((← rest).length + 1)
  let digitsStop ← place
  let _ ← advance
  if digits.isEmpty then fail .escapeHexEmpty (← since brace)
  else
    match scalar? (hexValue digits) with
    | none => fail .escapeHexInvalid ⟨digitsStart, digitsStop⟩
    | some c => return .literal ⟨← since start, c, false⟩

/-- A hexadecimal literal, at the letter that opens it. -/
def hex (start : Place) (digits : Nat) : Reader Atom := do
  if ← advance then
    if (← peek) = some '\x7b' then bracedHex start
    else
      let first ← place
      let ds ← hexDigits digits
      match scalar? (hexValue ds) with
      | none => fail .escapeHexInvalid (← since first)
      | some c => return .literal ⟨← since start, c, digits = 2⟩
  else fail .escapeUnexpectedEnd (← here)

/-- The text before the first occurrence of a mark and the text after it. -/
def cut? (mark : List Char) : List Char → Option (List Char × List Char)
  | [] => none
  | c :: rest =>
    if mark.isPrefixOf (c :: rest) then some ([], (c :: rest).drop mark.length)
    else (cut? mark rest).map fun (a, b) => (c :: a, b)

/-- The query that the text of a property asks, and whether it asks for what does
not have the value. -/
def query (text : List Char) : Query × Bool :=
  match cut? ['!', '='] text with
  | some (name, value) => (.byValue (String.ofList name) (String.ofList value), true)
  | none =>
    match cut? [':'] text <|> cut? ['='] text with
    | some (name, value) => (.byValue (String.ofList name) (String.ofList value), false)
    | none => (.named (String.ofList text), false)

/-- A Unicode property, at the letter that opens it. -/
def property (start : Place) (negated : Bool) : Reader Atom := do
  if ← advance then
    match ← peek with
    | none => fail .escapeUnexpectedEnd (← here)
    | some c =>
      if c = '\x7b' then
        let _ ← advance
        let text ← takeWhile (· ≠ '\x7d')
        if (← rest).isEmpty then fail .escapeUnexpectedEnd (← here)
        else
          bump
          let (query, differs) := query text
          return .property (← since start) query (negated != differs)
      else if c = '\\' then fail .unicodeClassInvalid (← nextSpan)
      else
        let _ ← advance
        return .property (← since start) (.named (String.singleton c)) negated
  else fail .escapeUnexpectedEnd (← here)

/-- Whether a character may stand in the name of a word boundary. -/
def isBoundaryChar (c : Char) : Bool := c.isAlpha || c = '-'

/-- The word boundary with a name. -/
def boundary? (name : String) : Option Assertion :=
  match name with
  | "start" => some .wordStart
  | "end" => some .wordEnd
  | "start-half" => some .wordStartHalf
  | "end-half" => some .wordEndHalf
  | _ => none

/-- A named word boundary, at its opening brace.  Where no name follows the brace
belongs to a repetition, and nothing is taken. -/
def namedBoundary (start : Place) : Reader (Option Assertion) := do
  let before ← get
  if ← advance then
    let first ← place
    match ← peek with
    | some c =>
      if isBoundaryChar c then
        let name ← takeWhile isBoundaryChar
        if (← peek) = some '\x7d' then
          let last ← place
          bump
          match boundary? (String.ofList name) with
          | some kind => return some kind
          | none => fail .wordBoundaryUnrecognized ⟨first, last⟩
        else fail .wordBoundaryUnclosed (← since before.place)
      else
        set before
        return none
    | none => return none
  else fail .wordBoundaryOrRepetitionUnexpectedEnd (← since start)

/-- The character that a letter after a backslash stands for. -/
def special? (c : Char) : Option Char :=
  match c with
  | 'a' => some '\x07'
  | 'f' => some '\x0c'
  | 't' => some '\t'
  | 'n' => some '\n'
  | 'r' => some '\r'
  | 'v' => some '\x0b'
  | _ => none

/-- The assertion that a letter after a backslash stands for. -/
def assertion? (c : Char) : Option Assertion :=
  match c with
  | 'A' => some .startText
  | 'z' => some .endText
  | 'b' => some .wordBoundary
  | 'B' => some .notWordBoundary
  | '<' => some .wordStart
  | '>' => some .wordEnd
  | _ => none

/-- The set that a letter after a backslash stands for, and whether it stands
for all other characters. -/
def perl? (c : Char) : Option (Perl × Bool) :=
  match c with
  | 'd' => some (.digit, false)
  | 'D' => some (.digit, true)
  | 's' => some (.space, false)
  | 'S' => some (.space, true)
  | 'w' => some (.word, false)
  | 'W' => some (.word, true)
  | _ => none

/-- How many digits a hexadecimal literal without braces has, by its letter. -/
def hexLength? (c : Char) : Option Nat :=
  match c with
  | 'x' => some 2
  | 'u' => some 4
  | 'U' => some 8
  | _ => none

/-- What a backslash and one character mean, when the character is neither a
digit nor opens a longer escape. -/
def simpleEscape (start : Place) (c : Char) : Reader Atom := do
  bump
  let span ← since start
  if isEscapable c then return .literal ⟨span, c, false⟩
  else
    match special? c, assertion? c with
    | some c, _ => return .literal ⟨span, c, false⟩
    | none, some kind =>
      if kind = .wordBoundary && (← peek) = some '\x7b' then
        match ← namedBoundary start with
        | some kind => return .assertion (← since start) kind
        | none => return .assertion span kind
      else return .assertion span kind
    | none, none => fail .escapeUnrecognized span

/-- An escape, at its backslash. -/
def escape : Reader Atom := do
  let start ← place
  bump
  match ← peek with
  | none => fail .escapeUnexpectedEnd (← since start)
  | some c =>
    if c.isDigit then fail .unsupportedBackreference ⟨start, (← nextSpan).stop⟩
    else
      match hexLength? c, perl? c with
      | some digits, _ => hex start digits
      | none, some (kind, negated) =>
        bump
        return .perl (← since start) kind negated
      | none, none =>
        if c = 'p' || c = 'P' then property start (c = 'P') else simpleEscape start c

end Reader
end Pattern
end Remedy
