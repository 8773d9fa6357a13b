/-
# Reading sets in brackets

Inside brackets a set is a row of characters, ranges, named sets and further
brackets, and rows are combined by `&&`, `--` and `~~`, all of the same strength
and taken from the left.
-/

import Remedy.Pattern.Escape

namespace Remedy
namespace Pattern

/-- The sets with a name in `[:` and `:]`. -/
def asciiNames : List String :=
  ["alnum", "alpha", "ascii", "blank", "cntrl", "digit", "graph", "lower", "print", "punct",
    "space", "upper", "word", "xdigit"]

/-- A row of sets that is still being read, the last one first. -/
structure Row where
  span : Span
  items : List CharSet

namespace Row

/-- A row without sets, at a place. -/
def emptyAt (p : Place) : Row := ⟨⟨p, p⟩, []⟩

/-- Adds a set to a row. -/
def push (r : Row) (s : CharSet) : Row :=
  ⟨⟨if r.items.isEmpty then s.span.start else r.span.start, s.span.stop⟩, s :: r.items⟩

/-- The set that a row is. -/
def toSet (r : Row) : CharSet :=
  match r.items with
  | [] => .empty r.span
  | [s] => s
  | items => .union r.span items.reverse

end Row

namespace Reader

/-- An atom as a member of a set. -/
def memberOf (a : Atom) : Reader CharSet :=
  match a with
  | .literal l => return .literal l
  | .perl s kind negated => return .perl s kind negated
  | .property s query negated => return .property s query negated
  | a => fail .classEscapeInvalid a.span

/-- An atom as the end of a range. -/
def rangeEnd (a : Atom) : Reader Literal :=
  match a with
  | .literal l => return l
  | a => fail .classRangeLiteral a.span

/-- One character or escape inside brackets. -/
def setAtom : Reader Atom := do
  match ← peek with
  | some '\\' => escape
  | some c =>
    let span ← nextSpan
    bump
    return .literal ⟨span, c, false⟩
  | none => fail .classUnclosed (← here)

/-- One character, escape or range inside brackets that `opening` opened. -/
def setMember (opening : Span) : Reader CharSet := do
  let first ← setAtom
  bumpSpace
  match ← peek with
  | none => fail .classUnclosed opening
  | some c =>
    let after ← peekSpace
    if c ≠ '-' || after = some ']' || after = some '-' then memberOf first
    else if ← advance then
      let last ← setAtom
      let low ← rangeEnd first
      let high ← rangeEnd last
      let span : Span := ⟨first.span.start, last.span.stop⟩
      if low.char ≤ high.char then return .range span low high else fail .classRangeInvalid span
    else fail .classUnclosed opening

/-- A named set such as `[:alpha:]`, if one comes next; otherwise nothing is
taken. -/
def asciiSet? : Reader (Option CharSet) := do
  let before ← get
  if ← bumpIf "[:" then
    let negated ← bumpIf "^"
    let name := String.ofList ((← rest).takeWhile (· ≠ ':'))
    bumpMany name.length
    if ← bumpIf ":]" then
      if asciiNames.contains name then return some (.ascii (← since before.place) name negated)
  set before
  return none

/-- Leading hyphens of a set; each stands for itself. -/
def leadingHyphens (start : Place) : Nat → Row → Reader Row
  | 0, row => return row
  | budget + 1, row => do
    if (← peek) = some '-' then
      let row := row.push (.literal ⟨← nextSpan, '-', false⟩)
      if ← advance then leadingHyphens start budget row else fail .classUnclosed ⟨start, start⟩
    else return row

/-- The opening of a set: its span, whether it is negated, and the members that
stand for themselves because they come first. -/
def openSet : Reader (Span × Bool × Row) := do
  let start ← place
  let go : Reader Unit := do
    if ← advance then return () else fail .classUnclosed (← since start)
  go
  let negated := (← peek) = some '^'
  if negated then go
  let row ← leadingHyphens start ((← rest).length + 1) (Row.emptyAt (← place))
  if row.items.isEmpty && (← peek) = some ']' then
    let row := row.push (.literal ⟨← nextSpan, ']', false⟩)
    go
    return (← since start, negated, row)
  else return (← since start, negated, row)

/-- The operator that comes next, if one does. -/
def operator? : Reader (Option SetOperator) := do
  if ← bumpIf "&&" then return some .intersection
  else if ← bumpIf "--" then return some .difference
  else if ← bumpIf "~~" then return some .symmetricDifference
  else return none

/-- A row together with the operation that waits for it. -/
def combine (waiting : Option (SetOperator × CharSet)) (row : Row) : CharSet :=
  match waiting with
  | none => row.toSet
  | some (op, left) =>
    let right := row.toSet
    .binary ⟨left.span.start, right.span.stop⟩ op left right

mutual

/-- A set, at its opening bracket. -/
def bracketed : Nat → Reader CharSet
  | 0 => do fail .classUnclosed (← here)
  | budget + 1 => do
    let (opening, negated, row) ← openSet
    members budget opening negated none row

/-- The rest of a set after its opening and the members read so far. -/
def members : Nat → Span → Bool → Option (SetOperator × CharSet) → Row → Reader CharSet
  | 0, opening, _, _, _ => fail .classUnclosed opening
  | budget + 1, opening, negated, waiting, row => do
    bumpSpace
    match ← peek with
    | none => fail .classUnclosed opening
    | some '[' =>
      match ← asciiSet? with
      | some s => members budget opening negated waiting (row.push s)
      | none =>
        let inner ← bracketed budget
        members budget opening negated waiting (row.push inner)
    | some ']' =>
      bump
      return .bracketed (← since opening.start) negated (combine waiting row)
    | some _ =>
      match ← operator? with
      | some op =>
        members budget opening negated (some (op, combine waiting row))
          (Row.emptyAt (← place))
      | none =>
        let s ← setMember opening
        members budget opening negated waiting (row.push s)

end

end Reader
end Pattern
end Remedy
