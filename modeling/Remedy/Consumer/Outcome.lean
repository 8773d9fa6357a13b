/-
# What became of a delivery

Each delivery has exactly one outcome, and each outcome is counted exactly once.
-/

import Remedy.Dispatch.Identifier
import Remedy.Execution.Executor

namespace Remedy
namespace Consumer

/-- `MessageOutcome`: what became of one delivery. -/
inductive Outcome where
  /-- The command ran to its end. -/
  | remediated (result : Execution.Result)
  /-- The payload named no service to act on; nothing ran. -/
  | rejected (reason : Dispatch.Rejection)
  /-- The command could not be run to its end. -/
  | failed (failure : Execution.Failure)
  deriving DecidableEq, Repr

namespace Outcome

/-- `is_success`: whether the service was remediated. -/
def isSuccess : Outcome → Bool
  | remediated result => result.succeeded
  | _ => false

/-- `status_label`: the name of an outcome in reports. -/
def status : Outcome → String
  | remediated result => if result.succeeded then "succeeded" else "exited_non_zero"
  | rejected _ => "rejected"
  | failed _ => "execution_failed"

/-- The exit status, where a command ran to its end. -/
def exitStatus? : Outcome → Option Int
  | remediated result => some result.exitStatus
  | _ => none

/-- What there is to tell beyond the status. -/
def details? : Outcome → Option String
  | remediated _ => none
  | rejected reason => some reason.message
  | failed failure => some failure.message

end Outcome

/-- `ConsumerStats`: running counts over the life of a consumer. -/
structure Stats where
  received : Nat := 0
  acknowledged : Nat := 0
  /-- Commands that exited zero. -/
  remediated : Nat := 0
  /-- Commands that exited otherwise, ran too long or could not be run. -/
  failed : Nat := 0
  rejected : Nat := 0
  deriving DecidableEq, Repr

namespace Stats

/-- `record`: counts one outcome. -/
def record (s : Stats) : Outcome → Stats
  | .remediated result =>
    if result.succeeded then { s with remediated := s.remediated + 1 }
    else { s with failed := s.failed + 1 }
  | .failed _ => { s with failed := s.failed + 1 }
  | .rejected _ => { s with rejected := s.rejected + 1 }

/-- How many outcomes have been counted. -/
def outcomes (s : Stats) : Nat := s.remediated + s.failed + s.rejected

/-- **Each outcome is counted once.** -/
theorem outcomes_record (s : Stats) (o : Outcome) : (s.record o).outcomes = s.outcomes + 1 := by
  cases o with
  | remediated result =>
    simp only [record, outcomes]
    split <;> simp <;> omega
  | failed => simp only [record, outcomes]; omega
  | rejected => simp only [record, outcomes]; omega

end Stats
end Consumer
end Remedy
