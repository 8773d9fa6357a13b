/-
# Where a reader of a script stands

A script is read token by token.  A cursor knows what is left of the text, a token
that has been looked at but not used, the aliases whose text is being read, and the
documents that follow the line.

A document is the text after a line that asks for it, up to a line with its mark.
The command that asks comes first, so a line with documents is read twice: once to
find them, and once more when they are known.
-/

import Remedy.Host.Shell.Syntax

namespace Remedy
namespace Host
namespace Shell

/-- What stands behind a redirection. -/
inductive Arrow where
  | to (d : Direction)
  /-- A mark of a document, from the lines of which tabs may be stripped. -/
  | document (strips : Bool)

/-- A token. -/
inductive Token where
  /-- The text is over. -/
  | ended
  | newline
  | operator (symbol : String)
  | keyword (name : String)
  | word (w : Word)
  | redirection (descriptor : Nat) (arrow : Arrow)

namespace Token

/-- A token as complaints name it. -/
def name : Token → String
  | ended => "end of file"
  | newline => "newline"
  | operator s => "\"" ++ s ++ "\""
  | keyword w => "\"" ++ w ++ "\""
  | word _ => "word"
  | redirection _ _ => "redirection"

/-- Whether a token is an operator. -/
def isOperator (symbol : String) : Token → Bool
  | operator s => s = symbol
  | _ => false

/-- Whether a token is a keyword. -/
def isKeyword (name : String) : Token → Bool
  | keyword w => w = name
  | _ => false

/-- Whether commands end before a token. -/
def closes : Token → Bool
  | ended => true
  | operator s => [")", ";;"].contains s
  | keyword w => ["do", "done", "elif", "else", "esac", "fi", "then", "\x7d"].contains w
  | _ => false

end Token

/-- What a token is checked for. -/
structure Check where
  /-- Ends of lines are passed over. -/
  newlines : Bool
  keywords : Bool
  aliases : Bool

/-- No check. -/
def Check.nothing : Check := ⟨false, false, false⟩

/-- The checks where a command may begin on the same line. -/
def Check.sameLine : Check := ⟨false, true, true⟩

/-- The checks where a command may begin, over lines. -/
def Check.command : Check := ⟨true, true, true⟩

/-- The checks where an arm of a selection may begin. -/
def Check.arm : Check := ⟨true, true, false⟩

/-- The checks for the words of a command; only the first may be an alias. -/
def Check.words (aliases : Bool) : Check := ⟨false, false, aliases⟩

/-- An alias whose text is being read. -/
structure Replacement where
  name : Octets
  /-- How much text is left behind the alias. -/
  after : Nat
  /-- Whether the word after it may be an alias as well. -/
  opens : Bool

/-- A document that has been asked for. -/
structure Request where
  index : Nat
  mark : Octets
  /-- Nothing in the document is expanded. -/
  isPlain : Bool
  strips : Bool

/-- Where a reader stands. -/
structure Cursor where
  rest : Octets
  line : Nat
  ahead : Option Token
  aliases : List (Octets × Octets)
  active : List Replacement
  requests : List Request
  /-- How many documents have been asked for. -/
  count : Nat
  /-- The documents that have been found, by their indices. -/
  found : List (Nat × Octets)
  /-- The documents that are known from reading before. -/
  known : List (Nat × Octets)

/-- The beginning of a text. -/
def Cursor.start (text : Octets) : Cursor := ⟨text, 1, none, [], [], [], 0, [], []⟩

/-- What is wrong with a script. -/
structure Malformed where
  line : Nat
  message : Octets

/-- A reader. -/
abbrev Reader (α : Type) := StateT Cursor (Except Malformed) α

namespace Reader

/-- Complains about the script. -/
def fail {α : Type} (message : String) : Reader α := do
  throw ⟨(← get).line, message.toList⟩

/-- Complains about the grammar of the script. -/
def misread {α : Type} (message : String) : Reader α := fail ("Syntax error: " ++ message)

/-- Complains about a token, perhaps because another one has to be there. -/
def unexpected {α : Type} (t : Token) (wanted : Option String) : Reader α :=
  misread (t.name ++ " unexpected" ++ (wanted.elim "" fun w => " (expecting " ++ w ++ ")"))

/-- What is left to read. -/
def rest : Reader Octets := do return (← get).rest

/-- How many lines end in a text. -/
def lineCount (cs : Octets) : Nat := (cs.filter (· = '\n')).length

/-- Goes on past some characters. -/
def skip (n : Nat) : Reader Unit :=
  modify fun c => { c with rest := c.rest.drop n, line := c.line + lineCount (c.rest.take n) }

/-- Puts a token back. -/
def back (t : Token) : Reader Unit := modify fun c => { c with ahead := some t }

/-- Whether a character ends a word. -/
def isMeta (c : Char) : Bool :=
  c = ' ' || c = '\t' || c = '\n' || c = ';' || c = '&' || c = '|' || c = '<' || c = '>'
    || c = '(' || c = ')'

/-- Whether a name may begin with a character. -/
def beginsName (c : Char) : Bool := c.isAlpha || c = '_'

/-- Whether a name may go on with a character. -/
def isNameChar (c : Char) : Bool := c.isAlphanum || c = '_'

/-- Whether a text is a name. -/
def isName (cs : Octets) : Bool := cs.head?.any beginsName && cs.all isNameChar

/-- How many characters of blanks, joined lines and comments come next. -/
def blankLength : Octets → Nat
  | ' ' :: rest | '\t' :: rest => 1 + blankLength rest
  | '\\' :: '\n' :: rest => 2 + blankLength rest
  | '#' :: rest => 1 + (rest.takeWhile (· != '\n')).length
  | _ => 0

/-- Goes on past blanks. -/
def blanks : Reader Unit := do skip (blankLength (← rest))

/-- Words that mean something to the shell where a command may begin. -/
def reserved : List String := ["!", "case", "do", "done", "elif", "else", "esac", "fi", "for",
  "if", "in", "then", "until", "while", "\x7b", "\x7d"]

/-- The first line of a text with its end, and what follows it.  Where lines may be
joined, a backslash takes the next character along. -/
def wholeLine (joins : Bool) : Octets → Octets × Octets
  | [] => ([], [])
  | [c] => ([c], [])
  | c :: d :: rest =>
    if c = '\n' then ([c], d :: rest)
    else if joins && c = '\\' then
      let (line, after) := wholeLine joins rest
      (c :: d :: line, after)
    else
      let (line, after) := wholeLine joins (d :: rest)
      (c :: line, after)

/-- The document that a text begins with, and what follows it, as far as a number of
lines goes. -/
def document (r : Request) : Nat → Octets → Octets × Octets
  | 0, cs => ([], cs)
  | _ + 1, [] => ([], [])
  | n + 1, cs =>
    let cs := if r.strips then cs.dropWhile (· = '\t') else cs
    let (line, after) := wholeLine (!r.isPlain) cs
    if line = r.mark ∨ line = Octets.line r.mark then ([], after)
    else
      let (more, after) := document r n after
      (line ++ more, after)

/-- Reads the documents that have been asked for. -/
def documents : Reader Unit :=
  modify fun c => c.requests.foldl (fun c r =>
    let (text, after) := document r (c.rest.length + 1) c.rest
    let passed := c.rest.take (c.rest.length - after.length)
    { c with rest := after, line := c.line + lineCount passed
             found := (r.index, text) :: c.found }) { c with requests := [] }

/-- Leaves the aliases behind whose text has been read, and says whether the word
that comes next may be an alias because of one of them. -/
def leaveAliases : Reader Bool := do
  let c ← get
  if c.active.isEmpty then return false
  let left := c.rest.length
  let (ended, active) := c.active.partition fun r => left ≤ r.after
  set { c with active := active }
  return ended.any (·.opens)

/-- Puts the text of an alias in place of the word that has just been read, if the
word is one. -/
def replace? (word : Octets) : Reader Bool := do
  let c ← get
  match c.aliases.lookup word with
  | none => return false
  | some text =>
    if c.active.any (·.name = word) then return false
    else
      let opens := text.getLast? = some ' ' ∨ text.getLast? = some '\t'
      set { c with
        rest := text ++ c.rest
        active := if text.isEmpty then c.active else ⟨word, c.rest.length, opens⟩ :: c.active }
      return true

end Reader
end Shell
end Host
end Remedy
