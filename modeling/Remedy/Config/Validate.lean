/-
# Validating a configuration

What the form of the settings cannot express.  Whether a path leads to a
directory is for the machine to say, so it is a parameter here.
-/

import Remedy.Config.Basic

namespace Remedy
namespace Config

/-- What keeps a setting from being blank. -/
def requireText (field context value : String) : Except Error Unit :=
  if Text.isAllBlank value then .error (.missing field context) else .ok ()

/-- What a broker URL may begin with. -/
def schemes : List String := ["amqp://", "amqps://"]

/-- Whether a URL begins with one of the schemes. -/
def hasScheme (url : String) : Bool := schemes.any fun s => s.toList.isPrefixOf url.toList

namespace Endpoint

/-- Refuses an endpoint that cannot be used. -/
def validate (e : Endpoint) : Except Error Unit := do
  if e.url.isNone then requireText "RABBITMQ_HOST" "broker endpoint" e.host
  requireText "RABBITMQ_QUEUE" "broker endpoint" e.queue
  if e.prefetch = 0 then
    .error (.invalid "RABBITMQ_PREFETCH_COUNT" "0"
      "prefetch of 0 means unlimited deliveries in flight")
  else
    match e.url with
    | some url =>
      if hasScheme url then .ok ()
      else .error (.invalid "RABBITMQ_URL" e.redactedUri "expected an amqp:// or amqps:// URI")
    | none => .ok ()

end Endpoint

namespace Runbook

/-- Refuses a pattern that does not compile. -/
def validatePattern (pattern : String) : Except Error Unit :=
  match Pattern.compile pattern with
  | .ok _ => .ok ()
  | .error e => .error (.invalid "RUNBOOK_SERVICE_PATTERN" pattern (e.message pattern))

/-- Refuses a working directory that is none. -/
def validateDirectory (isDirectory : Host.Path → Bool) : Option Host.Path → Except Error Unit
  | none => .ok ()
  | some dir =>
    if isDirectory dir then .ok ()
    else .error (.invalid "RUNBOOK_WORKING_DIR" dir.shown "not a directory")

/-- Refuses a remediation that cannot be used. -/
def validate (isDirectory : Host.Path → Bool) (r : Runbook) : Except Error Unit := do
  requireText "RUNBOOK_COMMAND" "runbook" r.command
  if r.timeoutSeconds = 0 then
    .error (.invalid "RUNBOOK_TIMEOUT_SECONDS" "0" "remediation must be time-bounded")
  else
    validatePattern r.pattern
    validateDirectory isDirectory r.workingDir

end Runbook
end Config

namespace Config

/-- Refuses a configuration that cannot be used. -/
def validate (isDirectory : Host.Path → Bool) (c : Config) : Except Error Unit := do
  c.endpoint.validate
  c.runbook.validate isDirectory

end Config
end Remedy
