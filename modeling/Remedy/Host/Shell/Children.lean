/-
# Children of a shell

Subshells, and commands in the background.  A subshell starts from the state of the
shell and leaves nothing behind but what it did to the machine, its status, and the
signals it has sent.
-/

import Remedy.Host.Shell.State

namespace Remedy
namespace Host
namespace Shell

/-- The time that a step of the shell takes. -/
def stepTime : Nat := 5

/-- The time that it takes to start a process. -/
def startTime : Nat := 500

/-- How long the end of a process that has sent a signal may be behind the signal, and
still be noticed together with it. -/
def noticeTime : Nat := 2000

namespace State

/-- The end of a shell in some state. -/
def ending (s : State) : End :=
  match s.flow with
  | .killed signal => .killed signal
  | .stuck => .unfinished
  | _ => .exited (s.status % 256)

/-- Makes room for one more job, in place of one whose end has been asked for. -/
def makeRoom (s : State) : State :=
  let isFree (j : Job) : Bool := j.isOwn && j.isWaited && j.isReaped
  match ((s.jobs.filter isFree).map (·.index)).min? with
  | some k => { s with jobs := s.jobs.filter fun j => !(j.isOwn && j.index == k) }
  | none => s

/-- A subshell at its start, which is a process of its own. -/
def fork (s : State) : State :=
  let (n, m) := s.machine.bear s.process.number
  { s with
    machine := m.pass startTime
    process.number := n
    traps := s.traps.filter (·.2.isEmpty)
    pending := []
    interrupted := none
    jobs := s.jobs.map fun j => { j with isOwn := false }
    loops := 0 }

/-- Whether there are commands that run when signals come. -/
def hasTraps (s : State) : Bool := s.traps.any (!·.2.isEmpty)

/-- What a subshell has done to jobs. -/
def learn (s child : State) : State :=
  { s with
    alarms := child.alarms
    jobs := s.jobs.map fun j =>
      match child.jobs.find? fun k => !k.isOwn && k.number == j.number with
      | some k => { j with finish := k.finish, ending := k.ending }
      | none => j }

/-- The state in which the shell has learnt of all jobs that have ended. -/
def reap (s : State) : State :=
  { s with
    jobs := s.jobs.map fun j =>
      if j.isOwn && j.finish ≤ s.machine.now then { j with isReaped := true } else j }

/-- A trap waits for the end of a child. -/
def noticeChild (s : State) : State :=
  if (s.traps.lookup Signal.child.number).isSome && !s.pending.contains Signal.child.number then
    { s with pending := s.pending ++ [Signal.child.number] }
  else s

/-- Tells of a child that was killed at a time. -/
def tell (s : State) (e : End) (time : Nat) : State :=
  match e with
  | .killed signal =>
    if signal.notice.isEmpty then s
    else
      let m := { s.machine with now := time }.complain s.process signal.notice.toList
      { s with machine := { m with now := s.machine.now } }
  | _ => s

/-- The state after a process in the foreground has ended. -/
def after (s : State) (e : End) : State :=
  match e with
  | .unfinished => { s with flow := .stuck }
  | e => (s.reap.noticeChild.tell e s.machine.now).finish e.status

/-- The machine that a process leaves behind when it ends. -/
def leftBehind (s : State) : Machine := s.machine.hold s.process s.machine.now

/-- The state after a subshell. -/
def join (s child : State) : State :=
  ({ s with machine := child.leftBehind }.learn child).after child.ending

/-- What a signal does that has come to the shell. -/
def receive (s : State) (signal : Signal) : State :=
  match (s.traps.lookup signal.number).filter fun _ => signal.isCatchable with
  | some action =>
    if action.isEmpty || s.pending.contains signal.number then s
    else { s with pending := s.pending ++ [signal.number] }
  | none =>
    match signal.effect with
    | .ignored => s
    | .stops => { s with flow := .stuck }
    | .kills => { s with flow := .killed signal }

/-- The signals that have come to the shell by now.  One that kills does so when it
comes, whatever has happened since. -/
def alert (s : State) : State :=
  if !s.isRoot then s
  else
    let due := (s.alarms.filter fun a => a.1 ≤ s.machine.now).mergeSort fun a b => a.1 ≤ b.1
    let s := { s with alarms := s.alarms.filter fun a => s.machine.now < a.1 }
    due.foldl (fun s a =>
      match s.flow with
      | .killed _ => s
      | _ =>
        let t := s.receive a.2
        match t.flow with
        | .killed _ => { t with machine := { t.machine.cut t.root a.1 with now := a.1 } }
        | _ => t) s

/-- Goes on to a time, unless a signal comes before; then it is told which. -/
def waitUntil (s : State) (time : Nat) : Option Signal × State :=
  let disturbs (a : Nat × Signal) : Bool :=
    a.1 + noticeTime < time && ((s.traps.lookup a.2.number).any fun action => !action.isEmpty)
  match if s.isRoot then (s.alarms.filter disturbs).mergeSort (fun a b => a.1 ≤ b.1) else [] with
  | a :: _ => (some a.2, { s with machine := s.machine.passUntil a.1 }.alert)
  | [] =>
    let m := s.machine.passUntil time
    (none, { s with machine := m, flow := if m.isLate then .stuck else s.flow })

end State
end Shell
end Host
end Remedy
