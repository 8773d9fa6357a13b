/-
# Expansions

What a word expands to as far as no command has to be run for it: homes, the arguments,
and the values of parameters.  What that gives is cut into fields only where a command
takes its arguments; everywhere else a word stands for one text.
-/

import Remedy.Host.Shell.Arithmetic
import Remedy.Host.Shell.Fields
import Remedy.Host.Shell.Names
import Remedy.Host.Shell.State
import Remedy.Text.Pieces

namespace Remedy
namespace Host
namespace Shell

/-- Where tildes stand for homes. -/
inductive Tildes where
  | nowhere
  | atStart
  /-- At the start, and after every colon. -/
  | afterColons
  deriving DecidableEq, Repr

/-- How a word is expanded. -/
structure Mode where
  tildes : Tildes
  /-- Whether plain text is cut into fields, as what is expanded is. -/
  isLoose : Bool
  /-- Whether fields are wanted. -/
  makesFields : Bool

namespace Mode

/-- For the arguments of a command. -/
def arguments : Mode := ⟨.atStart, false, true⟩

/-- For one text. -/
def text : Mode := ⟨.atStart, false, false⟩

/-- For the value of an assignment. -/
def assigned : Mode := ⟨.afterColons, false, false⟩

/-- For a document, or another text that is as if quoted. -/
def document : Mode := ⟨.nowhere, false, false⟩

/-- For a word in place of a value. -/
def inPlace (m : Mode) : Mode :=
  { m with tildes := if m.tildes = .afterColons then .afterColons else .atStart, isLoose := true }

/-- For what follows the first part of a word. -/
def further (m : Mode) : Mode :=
  { m with tildes := if m.tildes = .afterColons then .afterColons else .nowhere }

/-- Text that is not quoted. -/
def plain (m : Mode) (cs : Octets) : Piece := if m.isLoose then .loose cs else .fixed false cs

end Mode

/-- What an expansion gives. -/
def expanded (quoted : Bool) (cs : Octets) : Piece := if quoted then .fixed true cs else .loose cs

/-- Whether a parameter stands for all arguments. -/
def isList (name : Octets) : Bool := name = ['@'] || name = ['*']

namespace State

/-- The home that a tilde and a name stand for. -/
def home? (s : State) (name : Octets) : Option Octets :=
  if name.isEmpty then s.valueOf? "HOME".toList else Account.home? name

/-- A text that may begin with a tilde; the name after it has to have an end. -/
def housed (s : State) (m : Mode) (hasEnd : Bool) (cs : Octets) : List Piece :=
  match cs with
  | '~' :: rest =>
    let name := rest.takeWhile (· != '/')
    match if hasEnd || name.length < rest.length then s.home? name else none with
    | some home => [.fixed true home, m.plain (rest.drop name.length)]
    | none => [m.plain cs]
  | cs => [m.plain cs]

/-- Plain text of a word, which may have tildes; `isFirst` and `isLast` say where in the
word it stands. -/
def plainText (s : State) (m : Mode) (isFirst isLast : Bool) (cs : Octets) : List Piece :=
  let places := if m.tildes = .afterColons then Text.pieces [':'] cs else [cs]
  let last := places.length - 1
  let one (i : Nat) (cs : Octets) : List Piece :=
    if m.tildes = .nowhere || (i = 0 && !isFirst) then [m.plain cs]
    else s.housed m (isLast || i < last) cs
  ((places.zipIdx.map fun (cs, i) => one i cs).intersperse [m.plain [':']]).flatten

/-- The arguments as pieces. -/
def positional (s : State) (quoted : Bool) (name : Octets) (args : List Octets) : List Piece :=
  if quoted && name = ['*'] then [.fixed true (s.separator.intercalate args)]
  else ((args.map fun a => [expanded quoted a]).intersperse [.gap]).flatten

/-- What stands between the arguments while something is taken off their text. -/
def joint (s : State) (m : Mode) (quoted : Bool) (name : Octets) : Octets :=
  if !m.makesFields || (quoted && name = ['*']) then s.separator
  else if !quoted && (s.valueOf? "IFS".toList).isNone then [' ']
  else ['\x00']

/-- A text without what a pattern matches at one of its ends. -/
def trimmed (atEnd longest : Bool) (p : Wildcard.Pattern) (cs : Octets) : Octets :=
  if atEnd then Wildcard.trimEnd longest p cs else Wildcard.trimStart longest p cs

/-- The value of a parameter without what a pattern matches at one of its ends. -/
def trim (s : State) (m : Mode) (quoted : Bool) (name : Octets) (value : Octets)
    (atEnd longest : Bool) (p : Wildcard.Pattern) : List Piece :=
  if isList name then
    let cs := trimmed atEnd longest p ((s.joint m quoted name).intercalate s.arguments)
    s.positional quoted ['@'] (Text.pieces ['\x00'] cs)
  else [expanded quoted (trimmed atEnd longest p value)]

/-- The value of a parameter as one text, if it is set. -/
def value? (s : State) (name : Octets) : Option Octets :=
  if isList name then some (s.separator.intercalate s.arguments) else s.parameter? name

/-- The value of a parameter as pieces. -/
def valuePieces (s : State) (quoted : Bool) (name : Octets) : List Piece :=
  if isList name then s.positional quoted name s.arguments
  else [expanded quoted ((s.value? name).getD [])]

/-- Complains of a parameter that is not set. -/
def complainMissing (s : State) (name why : Octets) : State := s.abort (name ++ ": ".toList ++ why)

/-- The paths that a field stands for, or else its text. -/
def pathsOf (s : State) (p : Wildcard.Pattern) : List Octets :=
  if s.options.has "noglob" then [Wildcard.text p]
  else
    match Wildcard.paths s.machine s.process (Wildcard.unescaped p) with
    | [] => [Wildcard.text p]
    | paths => paths

/-- The arguments that pieces make. -/
def argumentsOf (s : State) (ps : List Piece) : List Octets :=
  (fields s.separators ps).flatMap s.pathsOf

/-- The value of an expression, whose variables may change. -/
def calculate (s : State) (quoted : Bool) (cs : Octets) : List Piece × State :=
  match Arithmetic.value cs ⟨s.valueOf?, s.constants.contains, []⟩ with
  | .ok (v, assigned) =>
    ([expanded quoted (Octets.ofInt v)],
      assigned.foldl (fun s a => s.orAbort (s.assign? a.1 a.2)) s)
  | .error .overflow => ([], { s with flow := .killed ⟨8⟩ })
  | .error e => ([], s.abort (e.message cs))

end State
end Shell
end Host
end Remedy
