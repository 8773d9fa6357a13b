/-
# Executors

What a consumer needs in order to act: a function that runs an action to its end
and tells how it went, with what there is to tell on the way.

A command that ran to its end has an exit status, whatever it is: a status other
than zero is a result.  Only a command that could not be run, or did not end in
time, is a failure.
-/

import Remedy.Command.Action
import Remedy.Log.Event

namespace Remedy
namespace Execution

/-- `ExecutionResult`: the end of a command. -/
structure Result where
  /-- The exit status; `-1` for a command killed by a signal. -/
  exitStatus : Int
  /-- Whether the command did what it was run for. -/
  succeeded : Bool
  /-- How long it took, in microseconds. -/
  duration : Nat
  /-- It did what it was run for just if it exited zero. -/
  mirrors : succeeded = (exitStatus == 0)
  deriving DecidableEq, Repr

/-- `from_exit_status`: the end of a command that exited with a status. -/
def Result.ofExitStatus (status : Int) (duration : Nat) : Result :=
  ⟨status, status == 0, duration, rfl⟩

/-- A result says twice whether the command succeeded, and the same each time. -/
theorem Result.succeeded_iff (r : Result) : r.succeeded = true ↔ r.exitStatus = 0 := by
  rw [r.mirrors, beq_iff_eq]

/-- `ExecutionError`: a command that has no result. -/
inductive Failure where
  | spawn (program message : String)
  | timeout (target : String) (milliseconds : Nat)
  | wait (program message : String)
  deriving DecidableEq, Repr

namespace Failure

/-- What is told about a failed command. -/
def message : Failure → String
  | spawn program m => "Failed to spawn '" ++ program ++ "': " ++ m
  | timeout target ms =>
    "Remediation for '" ++ target ++ "' timed out after " ++ toString ms ++ "ms"
  | wait program m => "Failed waiting on '" ++ program ++ "': " ++ m

end Failure

/-- How running an action went. -/
structure Report (σ : Type) where
  outcome : Except Failure Result
  after : σ
  events : List Log.Event

/-- `RunbookExecutor`: an executor with states of type `σ`. -/
structure Executor (σ : Type) where
  execute : Command.Action → σ → Report σ

end Execution
end Remedy
