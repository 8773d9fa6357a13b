/-
# Calling commands

What the words of a command call: a function, a part of the shell or a program.  The
word `command` in front says that functions are passed over, and perhaps that programs
are looked for in the directories of the system.
-/

import Remedy.Host.Shell.Builtin
import Remedy.Host.Shell.Children

namespace Remedy
namespace Host
namespace Shell

/-- How a command is run. -/
structure Manner where
  /-- Its status is asked for, so that it may fail even where the shell is strict. -/
  isTested : Bool
  /-- The shell has nothing to do after it. -/
  isLast : Bool

namespace Manner

/-- As one of several commands. -/
def plain : Manner := ⟨false, false⟩

/-- As a condition. -/
def tested : Manner := ⟨true, false⟩

/-- As the only command of a process. -/
def only : Manner := ⟨false, true⟩

/-- As a command after which there is something to do. -/
def inside (m : Manner) : Manner := { m with isLast := false }

end Manner

/-- A command that is called. -/
structure Calling where
  name : Octets
  args : List Octets
  /-- Whether functions are passed over. -/
  isDirect : Bool
  /-- Whether programs are looked for in the directories of the system. -/
  bySystem : Bool
  /-- Whether its failures concern the shell itself. -/
  isSpecial : Bool

/-- What follows the word `command` and its options, as far as a number of arguments
goes, if it calls another command; and whether the directories of the system were asked
for. -/
def behindCommand : Nat → Bool → List Octets → Option (Bool × Octets × List Octets)
  | _, _, [] => none
  | _, bySystem, ['-', '-'] :: name :: args => some (bySystem, name, args)
  | _, _, [['-', '-']] => none
  | 0, bySystem, name :: args => some (bySystem, name, args)
  | n + 1, bySystem, a :: args =>
    match a with
    | '-' :: c :: cs => if (c :: cs).all (· = 'p') then behindCommand n true args else none
    | name => some (bySystem, name, args)

namespace State

/-- The function that a name calls. -/
def function? (s : State) (c : Calling) : Option Command :=
  if c.isDirect || isSpecial c.name then none else s.functions.lookup c.name

/-- The command that is called, when the words in front have been taken off. -/
def behind (s : State) : Nat → Calling → Calling
  | 0, c => c
  | n + 1, c =>
    if c.name = "command".toList && (s.function? c).isNone then
      match behindCommand c.args.length c.bySystem c.args with
      | some (bySystem, name, args) => s.behind n ⟨name, args, true, bySystem, c.isSpecial⟩
      | none => c
    else c

/-- What words call. -/
def calling? (s : State) : List Octets → Option Calling
  | [] => none
  | name :: args => some (s.behind (args.length + 1) ⟨name, args, false, false, isSpecial name⟩)

/-- Whether a word is an assignment to the command that words before it call. -/
def expectsAssignment (s : State) (before : List Octets) : Bool :=
  (s.calling? before).any fun c => (s.function? c).isNone && takesAssignments c.name

/-- Remembers the program that a command will run, if that is plain. -/
def prepare (s : State) (c : Command) : State :=
  match c with
  | .simple _ _ ([.text false name] :: _) _ =>
    if Reader.isName name && (s.functions.lookup name).isNone && !isBuiltin name then
      match s.find false name with
      | .program _ path => s.remember name path
      | .refused _ => s
    else s
  | _ => s

/-- The path of a script that is to be run in the shell, which is looked for like a
program. -/
def script? (s : State) (name : Octets) : Option Octets :=
  let isFile (path : Octets) : Bool :=
    match s.machine.resolve s.process path with
    | .ok (_, .directory) | .error _ => false
    | .ok _ => true
  if name.contains '/' then some name
  else ((Text.pieces [':'] s.path).map fun d => pathIn d name).find? isFile

/-- The status of a program that cannot be run; whether it is missing counts only where
it is called by its path. -/
def statusOfRefusal (name : Octets) (r : Refusal) : Nat :=
  if !name.contains '/' then 127
  else
    match r with
    | .noEntry | .notDirectory | .nameTooLong => 127
    | _ => 126

/-- The shell becomes a program that ends. -/
def replaced (s : State) (e : End) (m : Machine) : State :=
  let s := { s with machine := m, traps := [] }
  match e with
  | .exited status => s.exit status
  | .killed signal => { s with flow := .killed signal }
  | .unfinished => { s with flow := .stuck }

/-- Inside one more loop. -/
def enterLoop (s : State) : State := { s with loops := s.loops + 1 }

/-- Inside one loop less. -/
def leaveLoop (s : State) : State := { s with loops := s.loops - 1 }

/-- Settles what a loop has to do after a round: whether to go on. -/
def round (s : State) : Bool × State :=
  match s.flow with
  | .on => (true, s)
  | .leaveLoops n => (false, { s with flow := if n ≤ 1 then .on else .leaveLoops (n - 1) })
  | .nextRound n =>
    if n ≤ 1 then (true, { s with flow := .on }) else (false, { s with flow := .leaveLoops (n - 1) })
  | _ => (false, s)

/-- Whether the shell goes on somewhere, and has not been ended. -/
def isAlive (s : State) : Bool :=
  match s.flow with
  | .on | .leaveLoops _ | .nextRound _ | .leaveFunction _ => true
  | _ => false

/-- The state behind a function or a file. -/
def returned (s : State) : State :=
  match s.flow with
  | .leaveFunction _ => { s with flow := .on }
  | _ => s

/-- The number for one more job. -/
def freeIndex (s : State) : Nat :=
  let used := (s.jobs.filter (·.isOwn)).map (·.index)
  ((List.range' 1 (used.length + 1)).find? fun k => !used.contains k).getD 1

/-- The state after commands have been started in the background; the clock goes on for
the shell from when it had started them. -/
def launched (s : State) (children : List State) (begun : Nat) : State :=
  match children.getLast? with
  | none => s
  | some last =>
    let isStuck := children.any fun c => c.flow = .stuck
    let finish :=
      if isStuck then s.machine.horizon + 1
      else (children.map fun c => c.machine.now).foldl max begun
    let number := last.process.number
    let job : Job :=
      { index := s.freeIndex, number := number, size := children.length, begun := begun
        finish := finish, ending := if isStuck then .unfinished else last.ending
        ignored := s.traps.filterMap fun t => if t.2.isEmpty then some t.1 else none
        isOwn := true, isReaped := false, isWaited := false }
    { s with
      machine := { s.machine with now := begun + startTime }
      status := 0
      lastJob := some number
      alarms := if s.isRoot then s.alarms ++ [(finish, Signal.child)] else s.alarms
      jobs := job :: s.jobs }

/-- The state after the commands of a pipeline have ended. -/
def afterAll (s : State) (children : List State) : State :=
  let s := children.foldl (fun s c => s.tell c.ending c.machine.now) s.reap.noticeChild
  let s := s.finish ((children.getLast?.map fun c => c.ending.status).getD 0)
  if children.any fun c => c.flow = .stuck then { s with flow := .stuck } else s.tick 0

end State
end Shell
end Host
end Remedy
