/-
# Loading a configuration from the environment

The section `RABBITMQ` says where alerts come from and the section `RUNBOOK`
what is done about them; the settings of the latter are parsed.  A container
platform may set `RABBITMQ_PORT` to an address; a port that is no number is
passed over with a warning.
-/

import Remedy.Config.Document
import Remedy.Config.Validate
import Remedy.Log.Event
import Remedy.Settings.Section

namespace Remedy
namespace Config

open Settings (Section Value Variables)

/-- The variable that may hold an address in place of a port. -/
def portVariable : String := "RABBITMQ_PORT"

/-- Whether a text is a port. -/
def isPort (s : String) : Bool := (Text.unsigned? Text.maxU16 s.toList).isSome

/-- What is told about a port that is passed over. -/
def portWarning (value : String) : Log.Event where
  level := .warn
  source := Log.component "config::loader"
  message := "Ignoring non-numeric broker port (service link?); using the default"
  fields := [("variable", .text portVariable), ("value", .text value)]

/-- `drop_service_link_port`: the variables without a port that is none, and the warning about
it. -/
def dropServiceLink (vars : Variables) : Variables × List Log.Event :=
  match vars.find? fun v => v.1 == portVariable with
  | some (_, value) =>
    if isPort value then (vars, [])
    else (vars.filter fun v => v.1 != portVariable, [portWarning value])
  | none => (vars, [])

/-- The section about the broker. -/
def endpointSection : Section := ⟨"RABBITMQ", false, []⟩

/-- The section about remediation. -/
def runbookSection : Section := ⟨"RUNBOOK", true, ["allowed_services"]⟩

/-- The setting of a name, or its default where it is missing. -/
def read {α : Type} (v : Value) (name : String) (default : α)
    (f : Value → Except Settings.Error α) : Except Settings.Error α :=
  match v.member? name with
  | none => .ok default
  | some v => (f v).mapError (Settings.Error.named name)

/-- A setting that may be absent. -/
def readOptional {α : Type} (f : Value → Except Settings.Error α) :
    Value → Except Settings.Error (Option α)
  | .nil => .ok none
  | v => (f v).map some

/-- The endpoint that settings describe. -/
def Endpoint.ofSettings (v : Value) : Except Settings.Error Endpoint := do
  let d := Endpoint.standard
  return {
    host := ← read v "host" d.host Value.asText
    queue := ← read v "queue" d.queue Value.asText
    port := ← read v "port" d.port Value.asUInt16
    vhost := ← read v "vhost" d.vhost Value.asText
    url := ← read v "url" d.url (readOptional Value.asText)
    durable := ← read v "durable" d.durable Value.asBool
    prefetch := ← read v "prefetch_count" d.prefetch Value.asUInt16 }

/-- The list of services, where a complaint names the item and not the list. -/
def readAllowed (v : Value) : Except Settings.Error (List String) :=
  match v.member? "allowed_services" with
  | none => .ok Runbook.standard.allowed
  | some v => v.asTexts "allowed_services"

/-- The remediation that settings describe. -/
def Runbook.ofSettings (v : Value) : Except Settings.Error Runbook := do
  let d := Runbook.standard
  return {
    command := ← read v "command" d.command Value.asText
    timeoutSeconds := ← read v "timeout_seconds" d.timeoutSeconds Value.asUInt64
    workingDir := ← read v "working_dir" d.workingDir
      (readOptional fun v => v.asText.map Host.Path.ofText)
    allowed := ← readAllowed v
    pattern := ← read v "service_pattern" d.pattern Value.asText
    ackMode := ← read v "ack_mode" d.ackMode (Value.asChoice "AckMode" ackModes) }

/-- `load_section`: what a section describes. -/
def loadSection {α : Type} (s : Section) (f : Value → Except Settings.Error α)
    (vars : Variables) : Except Error α :=
  (f (s.collect vars)).mapError fun e => .load s.name e.message

/-- The names of services without blanks around them; blank ones are dropped. -/
def tidy (services : List String) : List String :=
  (services.map Text.trim).filter (· ≠ "")

/-- The configuration that variables describe, which need not be usable. -/
def ofVariables (vars : Variables) : Except Error Config := do
  let endpoint ← loadSection endpointSection Endpoint.ofSettings vars
  let runbook ← loadSection runbookSection Runbook.ofSettings vars
  return ⟨endpoint, { runbook with allowed := tidy runbook.allowed }⟩

/-- What is told about a configuration that has been loaded. -/
def loadedEvent (c : Config) : Log.Event where
  level := .debug
  source := Log.component "config::loader"
  message := "Listener configuration loaded"
  fields := [("config", .text c.sanitized.compact)]

/-- `from_source`: the usable configuration that variables describe, and what was told on the
way. -/
def load (isDirectory : Host.Path → Bool) (vars : Variables) :
    Except Error Config × List Log.Event :=
  let (vars, warnings) := dropServiceLink vars
  let checked := do
    let c ← ofVariables vars
    c.validate isDirectory
    return c
  match checked with
  | .ok c => (.ok c, warnings ++ [loadedEvent c])
  | .error e => (.error e, warnings)

end Config
end Remedy
