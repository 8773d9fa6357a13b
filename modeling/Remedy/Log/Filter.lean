/-
# Filters

A filter says which events reach the console.  It is a list of *directives*
between commas: a level for everything, or a target with a level that counts for
the sources it is a prefix of, as in `info,runbook_listener=debug`.  A directive
may also name a span and fields in brackets.

The most specific directive that is about an event decides: the one with the
longest target, then the one with the most fields.
-/

import Remedy.Character.Letter
import Remedy.Log.Event
import Remedy.Number.Binary64
import Remedy.Pattern.Compiled
import Remedy.Text.Pieces
import Remedy.Text.Numeral

namespace Remedy
namespace Log

/-- How much is let through: nothing, or a level and what is more urgent. -/
abbrev Limit := Option Level

/-- A field that a directive names, perhaps with a value. -/
structure FieldCondition where
  name : List Char
  hasValue : Bool
  deriving DecidableEq, Repr

/-- A directive. -/
structure Directive where
  target : Option (List Char)
  span : Option (List Char)
  fields : List FieldCondition
  limit : Limit
  deriving DecidableEq, Repr

namespace Directive

/-- The levels by their numbers. -/
def numbered : List Limit :=
  [none, some .error, some .warn, some .info, some .debug, some .trace]

/-- The levels by their names. -/
def named : List (String × Limit) :=
  ("OFF", none) :: [Level.error, .warn, .info, .debug, .trace].map fun l => (l.label, some l)

/-- The level that a text stands for: a number or a name, whatever the case. -/
def limit? (cs : List Char) : Option Limit :=
  match (Text.unsigned? Text.maxU64 cs).bind fun n => numbered[n]? with
  | some l => some l
  | none => named.lookup (String.ofList (cs.map Char.toUpper))

/-- Where a reader stands in a directive, and where what it reads began. -/
inductive Spot where
  | beginning
  | limitOrTarget (start : Nat)
  | span (start : Nat)
  | field (start : Nat)
  | afterFields
  | afterBrackets
  | limit (start : Nat)

/-- A directive that has been read up to some spot. -/
structure Draft where
  spot : Spot
  directive : Directive

/-- Whether a directive may begin with a character. -/
def mayBegin (c : Char) : Bool :=
  c = '-' || c = ':' || c = '_' || Character.alphabetic.has c.toNat
    || Character.numeric.has c.toNat

/-- The characters of a text from one index up to another. -/
def between (cs : List Char) (start stop : Nat) : List Char := (cs.take stop).drop start

/-- Whether a text can be the value of a field: a number, or a pattern that does
not have to know where words of any script begin. -/
def isValue (cs : List Char) : Bool :=
  (Text.unsigned? Text.maxU64 cs).isSome || (Binary64.read? cs).isSome
    || match Pattern.regex (String.ofList cs) with
      | .ok r => !r.wantsWords
      | .error _ => false

/-- The condition that a text states about a field; what stands after a second
`=` does not count. -/
def fieldCondition? (cs : List Char) : Option FieldCondition :=
  match Text.pieces ['='] cs with
  | name :: value :: _ => if isValue value then some ⟨name, true⟩ else none
  | _ => some ⟨cs, false⟩

/-- Reads one character; indices count in `whole`. -/
def next (whole : List Char) (i : Nat) (c : Char) (d : Draft) : Option Draft :=
  let v := d.directive
  match d.spot, c with
  | .beginning, '[' => some ⟨.span (i + 1), v⟩
  | .beginning, c => if mayBegin c then some ⟨.limitOrTarget i, v⟩ else none
  | .limitOrTarget start, '=' =>
    some ⟨.limit (i + 1), { v with target := some (between whole start i) }⟩
  | .limitOrTarget start, '[' =>
    some ⟨.span (i + 1), { v with target := some (between whole start i) }⟩
  | .limitOrTarget start, _ => some ⟨.limitOrTarget start, v⟩
  | .span start, ']' => some ⟨.afterBrackets, { v with span := some (between whole start i) }⟩
  | .span start, '\x7b' =>
    let name := between whole start i
    some ⟨.field (i + 1), { v with span := if name.isEmpty then none else some name }⟩
  | .span start, _ => some ⟨.span start, v⟩
  | .field start, '\x7d' =>
    let text := between whole start i
    if text.isEmpty then none
    else (fieldCondition? text).map fun f => ⟨.afterFields, { v with fields := v.fields ++ [f] }⟩
  | .field start, _ => some ⟨.field start, v⟩
  | .afterFields, ']' => some ⟨.afterBrackets, v⟩
  | .afterFields, _ => none
  | .afterBrackets, '=' => some ⟨.limit (i + 1), v⟩
  | .afterBrackets, _ => none
  | .limit start, _ => some ⟨.limit start, v⟩

/-- What has been read when the text is over; a target alone lets everything
through. -/
def finish (whole : List Char) (d : Draft) : Option Directive :=
  let v := d.directive
  match d.spot with
  | .limitOrTarget start =>
    let text := whole.drop start
    match limit? text with
    | some l => some { v with limit := l }
    | none => some { v with target := some text }
  | .limit start =>
    let text := whole.drop start
    if text.isEmpty then some v else (limit? text).map fun l => { v with limit := l }
  | .afterBrackets => some v
  | _ => none

/-- Reads characters from an index on. -/
def readFrom (whole : List Char) : Nat → List Char → Draft → Option Directive
  | _, [], d => finish whole d
  | i, c :: rest, d => (next whole i c d).bind (readFrom whole (i + 1) rest)

/-- The directive that a text is. -/
def ofText? (cs : List Char) : Option Directive :=
  readFrom cs 0 (Text.trimEnd (Text.trimStart cs)) ⟨.beginning, ⟨none, none, [], some .trace⟩⟩

/-- Whether a directive can be applied to an event by itself, whatever span it is
emitted in. -/
def isPlain (d : Directive) : Bool := d.span.isNone && d.fields.all fun f => !f.hasValue

/-- Whether a directive is about an event. -/
def concerns (d : Directive) (e : Event) : Bool :=
  let names := "message" :: e.fields.map (·.1)
  (d.target.all fun t => t.isPrefixOf e.source.toList)
    && d.fields.all fun f => names.any fun n => n.toList == f.name

/-- What one directive has more of than another if it is the more specific one. -/
def weight (d : Directive) : Nat × Nat :=
  ((d.target.map fun t => String.utf8ByteSize (String.ofList t) + 1).getD 0, d.fields.length)

/-- Whether a directive comes before another one. -/
def precedes (a b : Directive) : Bool :=
  b.weight.1 < a.weight.1 || (a.weight.1 == b.weight.1 && b.weight.2 ≤ a.weight.2)

end Directive

/-- A filter: its directives. -/
abbrev Filter := List Directive

namespace Filter

/-- The filter that lets a level through, from all sources. -/
def ofLimit (l : Limit) : Filter := [⟨none, none, [], l⟩]

/-- The directives of a text, if all of them are well-formed.  An empty text lets
only errors through. -/
def ofText? (s : String) : Option Filter :=
  let parts := (Text.pieces [','] s.toList).filter fun p => !p.isEmpty
  match parts.mapM Directive.ofText? with
  | some [] => some (ofLimit (some .error))
  | directives => directives

/-- The directives that may decide about an event, the most specific one first; of
equal ones the last one counts. -/
def deciding (f : Filter) (e : Event) : List Directive :=
  ((f.filter fun d => d.isPlain && d.concerns e).reverse).mergeSort Directive.precedes

/-- Whether an event is let through. -/
def passes (f : Filter) (e : Event) : Bool :=
  match f.deciding e with
  | d :: _ => d.limit.any fun l => e.level.rank ≤ l.rank
  | [] => false

end Filter
end Log
end Remedy
