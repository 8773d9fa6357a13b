/-
# Configuration

Where alerts come from and what is done about them.  Every setting has a
default, so that an empty configuration listens on this machine and restarts
the service that an alert names.
-/

import Remedy.Dispatch.Dispatcher
import Remedy.Host.Path

namespace Remedy
namespace Config

/-- `BrokerEndpoint`: where alerts are consumed from. -/
structure Endpoint where
  host : String
  queue : String
  port : UInt16
  vhost : String
  /-- A full URI, which stands for host, port and virtual host. -/
  url : Option String
  /-- Whether the queue is declared to outlive the broker. -/
  durable : Bool
  /-- How many deliveries the broker may have under way. -/
  prefetch : UInt16
  deriving DecidableEq, Repr

/-- `AckMode`: when a delivery is acknowledged. -/
inductive AckMode where
  /-- As soon as it is received, so that it is acted on at most once. -/
  | onReceipt
  /-- Once its command has ended, however it ended. -/
  | afterExecution
  deriving DecidableEq, Repr

/-- The name of a mode. -/
def AckMode.text : AckMode → String
  | onReceipt => "on_receipt"
  | afterExecution => "after_execution"

/-- The modes by name. -/
def ackModes : List (String × AckMode) :=
  [AckMode.onReceipt, AckMode.afterExecution].map fun m => (m.text, m)

/-- `RunbookConfig`: what a remediation runs, and the guard rails around it. -/
structure Runbook where
  command : String
  timeoutSeconds : UInt64
  /-- Where the command runs. -/
  workingDir : Option Host.Path
  /-- The only services to act on, unless there are none. -/
  allowed : List String
  /-- What the name of a service has to be like. -/
  pattern : String
  ackMode : AckMode
  deriving DecidableEq, Repr

namespace Endpoint

/-- The endpoint unless another is configured. -/
def standard : Endpoint where
  host := "localhost"
  queue := "alerts"
  port := 5672
  vhost := "/"
  url := none
  durable := false
  prefetch := 1

/-- A virtual host as a component of a URI: a slash in it is escaped. -/
def encodeVhost (vhost : String) : String := Text.replace "/" "%2f" vhost

/-- `amqp_uri`: the URI to connect to. -/
def uri (e : Endpoint) : String :=
  match e.url with
  | some url => url
  | none => "amqp://" ++ e.host ++ ":" ++ toString e.port.toNat ++ "/" ++ encodeVhost e.vhost

/-- What parts a scheme from the rest of a URI. -/
def schemeEnd : List Char := [':', '/', '/']

/-- A text up to the end of the first mark in it, and what follows. -/
def afterMark (mark : List Char) : List Char → Option (List Char × List Char)
  | [] => none
  | c :: rest =>
    if mark.isPrefixOf (c :: rest) then some (mark, (c :: rest).drop mark.length)
    else (afterMark mark rest).map fun (a, b) => (c :: a, b)

/-- A text from the last `@` in it on. -/
def fromLastAt : List Char → Option (List Char)
  | [] => none
  | c :: rest =>
    match fromLastAt rest with
    | some tail => some tail
    | none => if c = '@' then some (c :: rest) else none

/-- A URI with what stands between its scheme and its last `@` hidden. -/
def redact (uri : String) : String :=
  match afterMark schemeEnd uri.toList with
  | some (scheme, rest) =>
    match fromLastAt rest with
    | some tail => String.ofList (scheme ++ ['*', '*', '*'] ++ tail)
    | none => uri
  | none => uri

/-- `redacted_uri`: the URI without any credentials. -/
def redactedUri (e : Endpoint) : String := redact e.uri

end Endpoint

namespace Runbook

/-- The remediation unless another is configured. -/
def standard : Runbook where
  command := Command.defaultCommand
  timeoutSeconds := 300
  workingDir := none
  allowed := []
  pattern := Dispatch.safeNamePattern
  ackMode := .onReceipt

/-- `Dispatcher.from_config`: the dispatcher for a remediation. -/
def dispatcher (r : Runbook) : Except Error Dispatcher :=
  Dispatcher.build r.pattern r.allowed r.command

end Runbook
end Config

/-- `ListenerConfig`: a configuration. -/
structure Config where
  endpoint : Config.Endpoint
  runbook : Config.Runbook
  deriving DecidableEq, Repr

/-- The configuration in which every setting has its default. -/
def Config.standard : Config := ⟨.standard, .standard⟩

end Remedy
