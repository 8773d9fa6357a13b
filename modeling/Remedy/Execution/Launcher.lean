/-
# Running actions as processes

A launcher starts the argument vector of an action, without a shell, and waits for
its process.  A process that does not end within the time limit is killed.

A background process may keep an output open after the process itself has ended.
Reading goes on for a moment then; an output that is still open after that is
given up, with all that was read of it.
-/

import Remedy.Config.Basic
import Remedy.Execution.Executor
import Remedy.Execution.Output
import Remedy.Host.System

namespace Remedy
namespace Execution

/-- `ProcessExecutor`: how actions are run. -/
structure Launcher where
  /-- The time limit in milliseconds. -/
  limit : Nat
  directory : Option Host.Path

namespace Launcher

/-- `from_config`: the launcher for a configuration. -/
def ofRunbook (r : Config.Runbook) : Launcher := ⟨r.timeoutSeconds.toNat * 1000, r.workingDir⟩

/-- The time limit as it is told: in 64 bits. -/
def shownLimit (l : Launcher) : Nat := l.limit % UInt64.size

/-- `OUTPUT_DRAIN_GRACE`: for how long reading goes on after the end of the process, in
microseconds. -/
def grace : Nat := 250000

/-- `collect_output`: what has been read of a stream when it is collected from a time on, and
when that is over. -/
def collect (s : Host.Stream) (time : Nat) : List UInt8 × Nat :=
  if s.closed ≤ time + grace then (Output.kept s.bytes, max time s.closed) else ([], time + grace)

/-- An event of the launcher. -/
def event (level : Log.Level) (message : String) (fields : Log.Fields) : Log.Event :=
  ⟨level, Log.component "runbook::executor", message, fields⟩

/-- What is told before an action is run. -/
def announcement (l : Launcher) (a : Command.Action) : Log.Event :=
  event .debug "Spawning remediation command"
    [("target_service", .text a.target.text), ("command", .text a.commandLine),
      ("timeout_ms", .nat l.shownLimit)]

/-- What is told after an action has been run: the output of a success, and the
complaints of anything else. -/
def summary (a : Command.Action) (r : Result) (output errors : List UInt8) : Log.Event :=
  let common : Log.Fields :=
    [("target_service", .text a.target.text), ("exit_status", .int r.exitStatus),
      ("duration_ms", .nat (r.duration / 1000 % UInt64.size))]
  if r.succeeded then
    event .info "Remediation command succeeded" (common ++ [("stdout", .text (Output.tail output))])
  else
    event .warn "Remediation command exited non-zero"
      (common ++ [("stderr", .text (Output.tail errors))])

/-- The exit status that is told of a process that ended. -/
def exitStatus : Host.Shell.End → Int
  | .exited status => status
  | _ => -1

/-- `execute`: runs an action. -/
def run (l : Launcher) (files : Host.FileSystem) (a : Command.Action) :
    Except Failure Result × List Log.Event :=
  let horizon := l.limit * 1000 + 3 * grace
  match Host.System.launch files a.program a.args l.directory horizon with
  | .error obstacle => (.error (.spawn a.program obstacle.message), [l.announcement a])
  | .ok c =>
    if c.ending = .unfinished ∨ l.limit * 1000 ≤ c.finished then
      (.error (.timeout a.target.text l.shownLimit), [l.announcement a])
    else
      let (output, time) := collect c.output c.finished
      let (errors, time) := collect c.errors time
      let r := Result.ofExitStatus (exitStatus c.ending) time
      (.ok r, [l.announcement a, summary a r output errors])

/-- The launcher as an executor, which keeps no state. -/
def executor {σ : Type} (l : Launcher) (files : Host.FileSystem) : Executor σ where
  execute a s :=
    let (outcome, events) := l.run files a
    ⟨outcome, s, events⟩

end Launcher
end Execution
end Remedy
