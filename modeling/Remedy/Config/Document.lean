/-
# Configurations as JSON

`toJson` writes a configuration out and `ofJson?` reads one.  Reading is strict
about types and about the two parts, which have to be there; it is generous about
the settings in a part, where a missing one has its default and an unknown one is
passed over.  The working directory may be a path that is no text; such a
configuration cannot be written.

`sanitized` is what may be shown to anyone: the URL is there without its
credentials.
-/

import Remedy.Config.Basic
import Remedy.Json.Basic

namespace Remedy
namespace Config

/-- An endpoint as JSON. -/
def Endpoint.toJson (e : Endpoint) : Json :=
  .record [("durable", .bool e.durable), ("host", .text e.host), ("port", .nat e.port.toNat),
    ("prefetch_count", .nat e.prefetch.toNat), ("queue", .text e.queue),
    ("url", .ofOption .text e.url), ("vhost", .text e.vhost)]

/-- A working directory as JSON, if it is a text. -/
def directoryJson? : Option Host.Path → Option Json
  | none => some .null
  | some dir => dir.text?.map .text

/-- A remediation as JSON, if its working directory is a text. -/
def Runbook.toJson? (r : Runbook) : Option Json := do
  let dir ← directoryJson? r.workingDir
  return .record [("ack_mode", .text r.ackMode.text), ("allowed_services", .texts r.allowed),
    ("command", .text r.command), ("service_pattern", .text r.pattern),
    ("timeout_seconds", .nat r.timeoutSeconds.toNat), ("working_dir", dir)]

/-- A configuration as JSON, if its working directory is a text. -/
def toJson? (c : Config) : Option Json := do
  let runbook ← c.runbook.toJson?
  return .record [("broker", c.endpoint.toJson), ("runbook", runbook)]

/-- The JSON of a configuration; null where there is none. -/
def toJson (c : Config) : Json := c.toJson?.getD .null

/-- `sanitized`: the JSON of a configuration with the credentials in the URL hidden. -/
def sanitized (c : Config) : Json :=
  let hide : Json → Json
    | .null => .null
    | _ => .text c.endpoint.redactedUri
  c.toJson.update "broker" (Json.update "url" hide)

/-- A text. -/
def text? : Json → Option String
  | .text s => some s
  | _ => none

/-- A truth value. -/
def bool? : Json → Option Bool
  | .bool b => some b
  | _ => none

/-- A natural number up to a limit. -/
def nat? (limit : Nat) : Json → Option Nat
  | .int n => if 0 ≤ n ∧ n ≤ limit then some n.toNat else none
  | _ => none

/-- A list of texts. -/
def texts? : Json → Option (List String)
  | .list items => items.mapM text?
  | _ => none

/-- A value that may be null. -/
def nullable? {α : Type} (f : Json → Option α) : Json → Option (Option α)
  | .null => some none
  | j => (f j).map some

/-- The name of a mode, as a text or as the only member of a record. -/
def ackMode? : Json → Option AckMode
  | .text s => (ackModes.find? fun m => m.1 == s).map (·.2)
  | .record [(name, .null)] => (ackModes.find? fun m => m.1 == name).map (·.2)
  | _ => none

/-- The members of a record; a list stands for the members in their order. -/
def membersOf? (names : List String) : Json → Option (List (String × Json))
  | .record members =>
    if names.all fun n => (members.filter fun m => m.1 == n).length ≤ 1 then some members else none
  | .list items => if items.length ≤ names.length then some (names.zip items) else none
  | _ => none

/-- The setting of a name, or its default where it is missing. -/
def setting {α : Type} (members : List (String × Json)) (name : String) (default : α)
    (f : Json → Option α) : Option α :=
  match Json.lookup members name with
  | none => some default
  | some j => f j

/-- An endpoint off JSON. -/
def Endpoint.ofJson? (j : Json) : Option Endpoint := do
  let ms ← membersOf? ["host", "queue", "port", "vhost", "url", "durable", "prefetch_count"] j
  let d := Endpoint.standard
  return {
    host := ← setting ms "host" d.host text?
    queue := ← setting ms "queue" d.queue text?
    port := ← setting ms "port" d.port fun j => (nat? Text.maxU16 j).map UInt16.ofNat
    vhost := ← setting ms "vhost" d.vhost text?
    url := ← setting ms "url" d.url (nullable? text?)
    durable := ← setting ms "durable" d.durable bool?
    prefetch := ← setting ms "prefetch_count" d.prefetch fun j =>
      (nat? Text.maxU16 j).map UInt16.ofNat }

/-- A remediation off JSON. -/
def Runbook.ofJson? (j : Json) : Option Runbook := do
  let ms ← membersOf? ["command", "timeout_seconds", "working_dir", "allowed_services",
    "service_pattern", "ack_mode"] j
  let d := Runbook.standard
  return {
    command := ← setting ms "command" d.command text?
    timeoutSeconds := ← setting ms "timeout_seconds" d.timeoutSeconds fun j =>
      (nat? Text.maxU64 j).map UInt64.ofNat
    workingDir := ← setting ms "working_dir" d.workingDir
      (nullable? fun j => (text? j).map Host.Path.ofText)
    allowed := ← setting ms "allowed_services" d.allowed texts?
    pattern := ← setting ms "service_pattern" d.pattern text?
    ackMode := ← setting ms "ack_mode" d.ackMode ackMode? }

/-- A configuration off JSON.  Unlike a setting, neither of the two parts has a
default: both have to be there. -/
def ofJson? (j : Json) : Option Config := do
  let ms ← membersOf? ["broker", "runbook"] j
  let endpoint ← (Json.lookup ms "broker").bind Endpoint.ofJson?
  let runbook ← (Json.lookup ms "runbook").bind Runbook.ofJson?
  return ⟨endpoint, runbook⟩

end Config
end Remedy
