/-
# Compiled patterns

A pattern is compiled by reading it, translating it and checking how large it
becomes.  A compiled pattern remembers the text it was compiled from.
-/

import Remedy.Pattern.Footprint
import Remedy.Pattern.Match
import Remedy.Pattern.Parser
import Remedy.Pattern.Translate

namespace Remedy
namespace Pattern

/-- Why a pattern cannot be used. -/
inductive Refusal where
  | malformed (e : Error)
  | tooLarge
  deriving DecidableEq, Repr

/-- What is told about a pattern that cannot be used. -/
def Refusal.message (pattern : String) : Refusal → String
  | malformed e => e.report pattern
  | tooLarge => "Compiled regex exceeds size limit of " ++ toString footprintLimit ++ " bytes."

/-- The regular expression of a pattern. -/
def regex (pattern : String) : Except Error Regex := do
  let s ← parse pattern
  let (r, _) ← s.translate Flags.standard
  return r

/-- A pattern that can be used. -/
structure Compiled where
  text : String
  regex : Regex

/-- Compiles a pattern. -/
def compile (pattern : String) : Except Refusal Compiled :=
  match regex pattern with
  | .error e => .error (.malformed e)
  | .ok r => if r.fits then .ok ⟨pattern, r⟩ else .error .tooLarge

/-- Whether a pattern matches somewhere in a text. -/
def Compiled.occursIn (p : Compiled) (text : String) : Bool := p.regex.occursIn text.toList

end Pattern
end Remedy
