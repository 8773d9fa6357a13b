/-
# Starting the listener

The listener sets up its logs, loads its configuration, tells what it is going to
do and connects to the broker.  Where the configuration cannot be used or the
broker cannot be reached, it says so on the error output and ends with status 1;
restarting it is left to whoever supervises it.
-/

import Remedy.Config.Load
import Remedy.Log.Event
import Remedy.Log.Setup
import Remedy.Messaging.Error
import Remedy.Messaging.Uri

namespace Remedy
namespace Startup

/-- What the listener is started in. -/
structure Surroundings where
  environment : Log.Variables
  files : Host.FileSystem
  stamp : Log.Stamp
  /-- What comes of connecting over the network. -/
  refusal : Host.Refusal

/-- What a start leaves behind. -/
structure Transcript where
  output : List String
  errors : List String
  status : Nat
  /-- The log file by its name from where the listener was started. -/
  logFile : Option String
  deriving DecidableEq, Repr

/-- The version of the listener. -/
def version : String := "0.1.0"

/-- The variables that are text. -/
def texts (vars : Log.Variables) : Settings.Variables :=
  vars.filterMap fun (name, bytes) =>
    (Text.Utf8.decode? bytes).map fun cs => (name, String.ofList cs)

/-- Something that the listener tells about itself. -/
def remark (message : String) : Log.Event := ⟨.info, Log.program, message, []⟩

/-- A list of texts in quotes. -/
def quotedList (items : List String) : String :=
  "[" ++ ", ".intercalate (items.map Text.quoted) ++ "]"

/-- Which services may be acted on. -/
def allowance (r : Config.Runbook) : String :=
  if r.allowed.isEmpty then "none (pattern " ++ r.pattern ++ ")" else quotedList r.allowed

/-- What the listener tells about its configuration. -/
def summary (c : Config) : List Log.Event :=
  [remark ("   Broker: " ++ c.endpoint.redactedUri),
    remark ("   Queue: " ++ c.endpoint.queue),
    remark ("   Command: " ++ c.runbook.command),
    remark ("   Timeout: " ++ toString c.runbook.timeoutSeconds.toNat ++ "s"),
    remark ("   Ack mode: " ++ c.runbook.ackMode.text),
    remark ("   Allow-list: " ++ allowance c.runbook)]

/-- The failure to connect to an endpoint. -/
def unreachable (e : Config.Endpoint) (r : Host.Refusal) : Messaging.Error :=
  let reason :=
    match Messaging.Uri.read e.uri with
    | .error fault => fault.message
    | .ok _ => r.message
  .connection
    ("RabbitMQ connection to " ++ e.redactedUri ++ " failed: IO error: " ++ reason)

/-- The lines of a text. -/
def lines (s : String) : List String := (Text.pieces ['\n'] s.toList).map String.ofList

/-- What is told on the error output about the end of the listener. -/
def epitaph (what cause : String) : List String :=
  ["Error: " ++ what, "", "Caused by:"] ++ (lines cause).map ("    " ++ ·)

/-- The events of a start, and what it ends with. -/
def events (s : Surroundings) (setup : Log.Setup) (files : Host.FileSystem) :
    List Log.Event × List String :=
  let (loaded, told) := Config.load files.isDirectory (texts s.environment)
  let begun :=
    [setup.announcement s.stamp, remark "Starting runbook listener",
      remark ("   Version: " ++ version)] ++ told
  match loaded with
  | .error e => (begun, epitaph "Failed to load configuration" e.message)
  | .ok c =>
    (begun ++ summary c,
      epitaph "Failed to connect to the message broker" (unreachable c.endpoint s.refusal).message)

/-- A start on a network that refuses the connection. -/
def run (s : Surroundings) : Transcript :=
  let (setup, files) := Log.Setup.of s.environment s.files s.stamp
  let (told, epitaph) := events s setup files
  { output := (told.filter setup.filter.passes).flatMap fun e => lines (Log.Console.text e)
    errors := setup.complaint.toList ++ epitaph
    status := 1
    logFile := setup.location.bind files.relative? }

end Startup
end Remedy
