/-
# Scripted executors

In a rehearsal nothing is run: an executor follows a script, which says for each
target how its commands end.  The first command for a target may also have side
effects on the broker; they happen before the command ends.
-/

import Remedy.Execution.Executor
import Remedy.Messaging.Faults
import Remedy.Messaging.Session

namespace Remedy
namespace Rehearsal

open Messaging (Session)

/-- What a consumer is rehearsed in.  Of the clients of the broker the consumer
is the first one. -/
structure World where
  session : Messaging.Faulty Session
  /-- The targets that commands were run for, the last one first. -/
  executed : List String

/-- How the commands for one target end. -/
inductive Ending where
  | fails (failure : Execution.Failure)
  /-- With these statuses, one after the other; the last one is repeated. -/
  | exits (statuses : List Int)
  deriving DecidableEq, Repr

/-- The end of a command, after so many earlier ones for the target. -/
def Ending.after (earlier : Nat) : Ending → Except Execution.Failure Execution.Result
  | fails failure => .error failure
  | exits statuses => .ok (.ofExitStatus ((statuses[earlier]?).getD (statuses.getLastD 0)) 0)

/-- What happens when commands are run for a target. -/
structure Script where
  /-- From the first command on, acknowledgments are refused or not. -/
  refuseAcks : Option Bool
  /-- The payloads that the first command sends. -/
  sends : List Messaging.Payload
  ending : Ending
  deriving DecidableEq, Repr

/-- Nothing but a success. -/
def Script.standard : Script := ⟨none, [], .exits [0]⟩

/-- The side effects of the first command for a target. -/
def Script.effects (s : Script) (queue : String) (b : Messaging.Broker) : Messaging.Broker :=
  let b := { b with refusesAcks := s.refuseAcks.getD b.refusesAcks }
  s.sends.foldl (fun b payload => (b.push queue ⟨payload, false⟩).2) b

/-- The scripts of the targets that have one. -/
abbrev Scripts := List (String × Script)

namespace Scripts

/-- The script of a target. -/
def of (scripts : Scripts) (target : String) : Script := (scripts.lookup target).getD .standard

/-- The payloads that are sent at most. -/
def sent (scripts : Scripts) : Nat := (scripts.flatMap fun s => s.2.sends).length

/-- Applies a change to the broker of a world. -/
def onBroker (f : Messaging.Broker → Messaging.Broker) (w : World) : World :=
  let s := w.session.inner
  { w with session := { w.session with inner := { s with broker := f s.broker } } }

/-- The executor that follows scripts; what it sends goes to `queue`. -/
def executor (scripts : Scripts) (queue : String) : Execution.Executor World where
  execute action w :=
    let target := action.target.text
    let script := scripts.of target
    let earlier := w.executed.count target
    let w := { w with executed := target :: w.executed }
    let w := if earlier = 0 then onBroker (script.effects queue) w else w
    ⟨script.ending.after earlier, w, []⟩

end Scripts
end Rehearsal
end Remedy
