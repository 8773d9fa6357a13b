/-
# Service identifiers

An alert's payload is the name of a service, and nothing else: no envelope, no
trimming, no normal form.  `Identifier.ofPayload` reads it, so that the bytes of
the name are the payload.

A payload that names no service to act on is rejected.  A rejected alert is
acknowledged like any other, and nothing is run for it.
-/

import Remedy.Text.Escape
import Remedy.Text.Utf8

namespace Remedy
namespace Dispatch

/-- `DispatchError`: a reason not to act on an alert. -/
inductive Rejection where
  /-- The payload is no text. -/
  | invalidUtf8 (reason : String)
  /-- The payload is empty. -/
  | emptyPayload
  /-- The name does not have the required form. -/
  | unsafeIdentifier (identifier pattern : String)
  /-- The name is not one of those allowed. -/
  | notAllowed (identifier : String)
  deriving DecidableEq, Repr

namespace Rejection

/-- What is told about a rejected alert. -/
def message : Rejection → String
  | invalidUtf8 reason => "Payload is not valid UTF-8: " ++ reason
  | emptyPayload => "Payload is empty"
  | unsafeIdentifier identifier pattern =>
    "Service identifier " ++ Text.quoted identifier ++ " does not match pattern " ++ pattern
  | notAllowed identifier =>
    "Service identifier " ++ Text.quoted identifier ++ " is not in the allow-list"

end Rejection

/-- `ServiceIdentifier`: the name of a service: any text but the empty one. -/
structure Identifier where
  text : String
  nonempty : text ≠ ""
  deriving DecidableEq

namespace Identifier

/-- The identifier that a text is. -/
def ofText (s : String) : Except Rejection Identifier :=
  if h : s = "" then .error .emptyPayload else .ok ⟨s, h⟩

/-- `decode_payload`: the identifier that a payload names, without regard to any policy. -/
def ofPayload (payload : List UInt8) : Except Rejection Identifier :=
  match Text.Utf8.decode payload with
  | .error fault => .error (.invalidUtf8 fault.message)
  | .ok cs => ofText (String.ofList cs)

end Identifier

end Dispatch
end Remedy
