/-
# Setting up the logs

The console always shows events; how many depends on the deployment environment,
unless a filter is given.  If a directory for log files is given, there is a log
file as well, named for the environment, the process and the time.
-/

import Remedy.Host.Creation
import Remedy.Log.Filter

namespace Remedy
namespace Log

/-- The variables of a process, which need not be text. -/
abbrev Variables := List (String × List UInt8)

/-- The text that a variable holds; none if it holds something else. -/
def textOf (vars : Variables) (name : String) : Option String :=
  ((vars.lookup name).bind Text.Utf8.decode?).map String.ofList

/-- What tells one process from another. -/
structure Stamp where
  process : String
  time : String

/-- How logs are set up. -/
structure Setup where
  environment : String
  filter : Filter
  /-- The path of the log file as it is told. -/
  file : Option String
  /-- Where the log file is. -/
  location : Option Host.Location
  /-- Why there is no log file where one was asked for. -/
  complaint : Option String

namespace Setup

/-- `get_environment`: the deployment environment. -/
def environmentOf (vars : Variables) : String :=
  ((textOf vars "RUNBOOK_ENV").or (textOf vars "APP_ENV")).getD "development"

/-- `get_log_level`: the level of an environment: production is told less. -/
def levelOf (environment : String) : Level :=
  if environment = "production" then .info else .debug

/-- `build_filter`: the filter that is given, if it is well-formed, or else that of the
environment. -/
def filterOf (vars : Variables) (environment : String) : Filter :=
  ((textOf vars "RUST_LOG").bind Filter.ofText?).getD (Filter.ofLimit (some (levelOf environment)))

/-- `log_file_name`: the name of the log file. -/
def fileName (environment : String) (stamp : Stamp) : String :=
  environment ++ "." ++ stamp.process ++ "." ++ stamp.time ++ ".log"

/-- The path of a file in a directory; an absolute one stays as it is. -/
def join (directory name : String) : String :=
  if name.startsWith "/" || directory.isEmpty then name
  else if directory.endsWith "/" then directory ++ name
  else directory ++ "/" ++ name

/-- `init_structured_logging`: the set-up for some variables, and the file system afterwards. -/
def of (vars : Variables) (files : Host.FileSystem) (stamp : Stamp) : Setup × Host.FileSystem :=
  let environment := environmentOf vars
  let plain : Setup := ⟨environment, filterOf vars environment, none, none, none⟩
  match textOf vars "RUNBOOK_LOG_DIR" with
  | none => (plain, files)
  | some directory =>
    let path := join directory (fileName environment stamp)
    let made := do
      let files ← files.makeDirectories (Host.Path.ofText directory)
      files.makeFileAnywhere (Host.Path.ofText path)
    match made with
    | .ok (l, files) => ({ plain with file := some path, location := some l }, files)
    | .error r =>
      let complaint := "runbook-listener: file logging disabled: " ++ r.message
      ({ plain with complaint := some complaint }, files)

/-- What is told when other software in the process has set up logs before. -/
def alreadySetUp : Event where
  level := .debug
  source := component "logging"
  message := "Global tracing subscriber already initialized - continuing with existing subscriber"
  fields := []

/-- What is told of a set-up. -/
def announcement (s : Setup) (stamp : Stamp) : Event where
  level := .info
  source := component "logging"
  message := "Structured logging initialized"
  fields :=
    [("pid", .text stamp.process), ("environment", .text s.environment)]
      ++ optional "log_file" .quoted s.file

/-- What is told when logs are set up so many times in a process that has logs
already: only the first time counts. -/
def repeated (s : Setup) (stamp : Stamp) : Nat → List Event
  | 0 => []
  | _ + 1 => [alreadySetUp, s.announcement stamp]

end Setup
end Log
end Remedy
