/-
# Dispatching

A policy says which services may be acted on: their names match a pattern and,
if there is an allow-list, stand in it.  An empty allow-list allows every name.
Order and repeats in the list do not matter.

A dispatcher decides what to do about a payload: nothing, for a reason, or the
action that its template becomes for the service that the payload names.
-/

import Remedy.Command.Action
import Remedy.Dispatch.Identifier
import Remedy.Fatal
import Remedy.Pattern.Compiled

namespace Remedy

namespace Dispatch

/-- `DEFAULT_SERVICE_PATTERN`: the pattern of safe names, unless another is configured. -/
def safeNamePattern : String := "^[A-Za-z0-9][A-Za-z0-9._-]\x7b0,127\x7d$"

/-- `ServicePolicy`: what a name has to be like. -/
structure Policy where
  pattern : Pattern.Compiled
  allowed : List String

namespace Policy

/-- `ServicePolicy.new`: the policy with a pattern and an allow-list. -/
def ofPattern (pattern : String) (allowed : List String) : Except Config.Error Policy :=
  match Pattern.compile pattern with
  | .ok p => .ok ⟨p, allowed⟩
  | .error e => .error (.invalid "RUNBOOK_SERVICE_PATTERN" pattern (e.message pattern))

/-- `is_restricted`: whether there is an allow-list. -/
def isRestricted (p : Policy) : Bool := !p.allowed.isEmpty

/-- `check`: lets a name pass or says why not. -/
def check (p : Policy) (i : Identifier) : Except Rejection Unit :=
  if !p.pattern.occursIn i.text then .error (.unsafeIdentifier i.text p.pattern.text)
  else if p.isRestricted && !p.allowed.contains i.text then .error (.notAllowed i.text)
  else .ok ()

end Policy
end Dispatch

/-- `Dispatcher`: a policy and the command to run for the names that it lets pass. -/
structure Dispatcher where
  policy : Dispatch.Policy
  template : Command.Template

namespace Dispatcher

open Dispatch

/-- `dispatch`: the service that a payload names, if the policy lets it pass. -/
def identify (d : Dispatcher) (payload : List UInt8) : Except Rejection Identifier := do
  let i ← Identifier.ofPayload payload
  d.policy.check i
  return i

/-- `resolve`: the action for a payload. -/
def resolve (d : Dispatcher) (payload : List UInt8) : Except Rejection Command.Action := do
  let i ← d.identify payload
  return ⟨d.template, i⟩

/-- The dispatcher for a pattern, an allow-list and a command line.  A pattern
that cannot be used is reported before a command line that cannot. -/
def build (pattern : String) (allowed : List String) (command : String) :
    Except Config.Error Dispatcher := do
  let policy ← Policy.ofPattern pattern allowed
  let template ← Command.Template.parse command
  return ⟨policy, template⟩

end Dispatcher

end Remedy
