/-
# Log events

An event has a level, the component it comes from, a message and named fields.
Work on one delivery happens inside a span, whose own fields say which delivery
it is; an `Entry` is an event together with the span it was emitted in.

Two events are standing reports: `remediation` tells how one remediation went and
`failure` tells that a component failed.  Nothing else records either.

On the console an event is a line: its level, where it comes from, its message and
its fields.  Texts that might be mistaken for something else stand in quotes, and
what could steer a terminal is spelled out in the message.
-/

import Remedy.Text.Escape

namespace Remedy
namespace Log

/-- How urgent an event is, the most urgent first. -/
inductive Level where
  | error
  | warn
  | info
  | debug
  | trace
  deriving DecidableEq, Repr

namespace Level

/-- The name of a level as it is printed. -/
def label : Level → String
  | error => "ERROR"
  | warn => "WARN"
  | info => "INFO"
  | debug => "DEBUG"
  | trace => "TRACE"

/-- How much a level lets through: more urgent levels have smaller numbers. -/
def rank : Level → Nat
  | error => 1
  | warn => 2
  | info => 3
  | debug => 4
  | trace => 5

end Level

/-- The value of a field.  A `text` is shown as it is; a `quoted` text stands in
quotes on a console line. -/
inductive Value where
  | text (s : String)
  | quoted (s : String)
  | int (n : Int)
  | bool (b : Bool)
  deriving DecidableEq, Repr

namespace Value

/-- A natural number as a value. -/
def nat (n : Nat) : Value := .int n

end Value

/-- The named values of an event. -/
abbrev Fields := List (String × Value)

/-- A field that may be missing. -/
def optional {α : Type} (name : String) (f : α → Value) : Option α → Fields
  | none => []
  | some a => [(name, f a)]

/-- Something worth telling. -/
structure Event where
  level : Level
  /-- The component that emits it. -/
  source : String
  message : String
  fields : Fields
  deriving DecidableEq, Repr

/-- The work during which an event is emitted. -/
structure Span where
  name : String
  fields : Fields
  deriving DecidableEq, Repr

/-- An event and where it was emitted. -/
structure Entry where
  event : Event
  span : Option Span
  deriving DecidableEq, Repr

/-- An event outside every span. -/
def Event.entry (e : Event) : Entry := ⟨e, none⟩

/-- An event inside a span. -/
def Event.within (e : Event) (s : Span) : Entry := ⟨e, some s⟩

/-- The program itself, as a source of events. -/
def program : String := "runbook_listener"

/-- A component of the program, as a source of events. -/
def component (name : String) : String := program ++ "::" ++ name

/-! ### The two standing reports -/

/-- One remediation as it is reported. -/
structure Remediation where
  operation : String
  service : Option String
  receipt : String
  status : String
  exitStatus : Option Int
  details : Option String

/-- The message of every remediation report. -/
def remediationMessage : String := "REMEDIATION_OPERATION"

/-- `log_remediation_operation`: the report on one remediation. -/
def remediation (r : Remediation) : Event where
  level := .info
  source := component "logging"
  message := remediationMessage
  fields :=
    [("operation", .text r.operation)]
      ++ optional "service" .quoted r.service
      ++ [("receipt_handle", .text r.receipt), ("status", .text r.status)]
      ++ optional "exit_status" .int r.exitStatus
      ++ optional "details" .quoted r.details

/-- `log_error`: the report on a failure; `context` says what it was about. -/
def failure (part operation error : String) (context : Option String) : Event where
  level := .error
  source := component "logging"
  message := "ERROR"
  fields :=
    [("component", .text part), ("operation", .text operation), ("error", .text error)]
      ++ optional "context" .quoted context

/-! ### Console lines -/

namespace Console

/-- A character of a message. -/
def shown (c : Char) : List Char :=
  let n := c.toNat
  if [0x07, 0x08, 0x0C, 0x1B, 0x7F].contains n then
    ['\\', 'x', Nat.digitChar (n / 16), Nat.digitChar (n % 16)]
  else if 0x80 ≤ n && n ≤ 0x9F then Text.codePointEscape c
  else [c]

/-- A value on the console. -/
def value : Value → String
  | .text s => s
  | .quoted s => Text.quoted s
  | .int n => toString n
  | .bool b => if b then "true" else "false"

/-- A field on the console. -/
def field (f : String × Value) : String := " " ++ f.1 ++ "=" ++ value f.2

/-- An event on the console. -/
def text (e : Event) : String :=
  e.level.label ++ " " ++ e.source ++ ": " ++ String.ofList (e.message.toList.flatMap shown)
    ++ String.join (e.fields.map field)

end Console

end Log
end Remedy
