/-
# Signals

`kill` sends signals to the shell, to its jobs and to jobs that it knows of; `trap` says
what is to be run when signals come.
-/

import Remedy.Host.Shell.Builtin.Jobs

namespace Remedy
namespace Host
namespace Shell
namespace Builtin

/-- How `kill` is used. -/
def killUsage : Octets :=
  ("Usage: kill [-s sigspec | -signum | -sigspec] [pid | job]... or\n"
    ++ "kill -l [exitstatus]").toList

/-- Whether a job dies of a signal.  What a user at a terminal sends is ignored as soon
as the job has got going. -/
def diesOf (now : Nat) (j : Job) (signal : Signal) : Bool :=
  signal.effect = .kills && now < j.finish && !j.ignored.contains signal.number &&
    !((signal.number = 2 || signal.number = 3) && j.begun + startTime ≤ now)

/-- What a signal does that is sent to a job. -/
def signalJob (s : State) (signal : Signal) (j : Job) : State :=
  let now := s.machine.now
  if diesOf now j signal then
    let s := { s with
      machine := s.machine.cut j.number now
      alarms := s.alarms.map fun a =>
        if a = (j.finish, Signal.child) then (now, Signal.child) else a }
    putJob s { j with finish := now, ending := .killed signal }
  else if signal.effect = .stops && now < j.finish then
    putJob s { j with finish := s.machine.horizon + 1, ending := .unfinished }
  else s

/-- Sends a signal to a process; there may be no such process. -/
def send (s : State) (signal : Signal) (number : Nat) : Option State :=
  if number = s.process.number then some (s.receive signal)
  else if number = s.root then
    some { s with alarms := s.alarms ++ [(s.machine.now, signal)] }
  else
    match s.jobs.find? fun j => j.number = number && !j.isReaped with
    | some j => some (signalJob s signal j)
    | none => none

/-- Sends a signal to what an argument names. -/
def sendTo (signal : Signal) (s : State) (target : Octets) : State :=
  let sent (number? : Option Nat) : State :=
    match number?.bind (send s signal) with
    | some s => s
    | none => (s.complain "No such process\n".toList).finish 1
  match target with
  | '%' :: _ =>
    match job? s target with
    | .ok _ => sent none
    | .error why => s.abort why
  | '-' :: cs => s.withNumber cs fun _ => sent none
  | cs => s.withNumber cs fun n => sent (some n)

/-- The names of the signals, or of the one that has ended a command. -/
def listSignals (s : State) : List Octets → State
  | [] =>
    let names := "0" :: (List.range' 1 Signal.last).map Signal.nameOf
    (s.finish 0).print (names.flatMap fun n => Octets.line n.toList)
  | a :: _ => s.withNumber a fun n =>
    let k := if 128 < n then n - 128 else n
    if 0 < k ∧ k ≤ Signal.last then (s.finish 0).print (Octets.line (Signal.nameOf k).toList)
    else s.abort ("invalid signal number or exit status: ".toList ++ a)

/-- Sends a signal to some processes. -/
def sendAll (s : State) (signal : Signal) (targets : List Octets) : State :=
  if targets.isEmpty then s.abort killUsage
  else (s.finish 0).forEach targets (sendTo signal)

/-- The signal that options ask for, or what is wrong with them. -/
def chosenSignal? (chosen : List (Char × Octets)) : Except Octets (Option Signal) :=
  chosen.foldlM (fun found c =>
    if c.1 = 'l' then .ok found
    else
      match Signal.ofText? 1 c.2 with
      | some signal => .ok (some signal)
      | none => .error ("invalid signal number or name: ".toList ++ c.2)) none

/-- Sends signals, or lists them. -/
def kill : Builtin := fun args s =>
  let byOptions : State :=
    s.withOptions "ls:" args fun chosen targets =>
      match chosenSignal? chosen with
      | .error why => s.abort why
      | .ok signal =>
        if !chosen.any (·.1 = 'l') then sendAll s (signal.getD .term) targets
        else if signal.isSome && !targets.isEmpty then s.abort killUsage
        else listSignals s targets
  match args with
  | [] => s.abort killUsage
  | ('-' :: name) :: targets =>
    match Signal.ofText? 1 name with
    | some signal => sendAll s signal targets
    | none => byOptions
  | targets => sendAll s .term targets

/-- Sets what is to be run when signals come, or resets it, up to a name that means
nothing. -/
def setTraps (action : Option Octets) : List Octets → State → State
  | [], s => s.finish 0
  | a :: rest, s =>
    match Signal.ofText? 0 a with
    | none =>
      let message := "trap: ".toList ++ a ++ ": bad trap".toList
      { s with machine := s.machine.complain s.process message }.finish 1
    | some signal =>
      let others := s.traps.filter (·.1 != signal.number)
      setTraps action rest
        { s with traps := ((action.map fun t => (signal.number, t)).toList ++ others) }

/-- Shows what is to be run when signals come, or changes it. -/
def trap : Builtin := fun args s =>
  s.withOptions "" args fun _ operands =>
    match operands with
    | [] =>
      (s.finish 0).print ((s.traps.mergeSort fun a b => a.1 ≤ b.1).flatMap fun t =>
        "trap -- ".toList ++ State.quoted t.2 ++
          Octets.line (' ' :: (Signal.nameOf t.1).toList))
    | first :: rest =>
      if rest.isEmpty || !first.isEmpty && first.all Char.isDigit &&
          (Signal.ofText? 0 first).isSome then
        setTraps none operands s
      else setTraps (if first = ['-'] then none else some first) rest s

end Builtin
end Shell
end Host
end Remedy
