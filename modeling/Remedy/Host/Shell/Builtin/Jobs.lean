/-
# Jobs

The parts of the shell that show the commands beside it, and wait for them.
-/

import Remedy.Host.Shell.Builtin.Basic
import Remedy.Host.Shell.Children

namespace Remedy
namespace Host
namespace Shell
namespace Builtin

/-- The jobs of a shell, the newest one first. -/
def ownJobs (s : State) : List Job := s.jobs.filter (·.isOwn)

/-- Replaces a job. -/
def putJob (s : State) (job : Job) : State :=
  { s with jobs := s.jobs.map fun j => if j.number = job.number then job else j }

/-- The job that an argument names. -/
def job? (s : State) (name : Octets) : Except Octets Job :=
  let jobs := ownJobs s
  let orSay (why : String) (j : Option Job) : Except Octets Job :=
    match j with
    | some j => .ok j
    | none => .error why.toList
  let none? : Except Octets Job := .error ("No such job: ".toList ++ name)
  match name with
  | ['%'] | ['%', '+'] | ['%', '%'] => orSay "No current job" jobs.head?
  | ['%', '-'] => orSay "No previous job" (jobs[1]?)
  | ['%', '?'] =>
    match jobs with
    | [] => none?
    | [j] => .ok j
    | _ => .error (name ++ ": ambiguous".toList)
  | '%' :: cs =>
    match (Program.natural? cs).bind fun k => jobs.find? (·.index = k) with
    | some j => .ok j
    | none => none?
  | _ => none?

/-- How a job stands. -/
def standing (s : State) (j : Job) : String :=
  if s.machine.now < j.finish then "Running"
  else
    match j.ending with
    | .killed signal => signal.meaning
    | .exited 0 | .unfinished => "Done"
    | .exited n => "Done(" ++ toString n ++ ")"

/-- A job as it is shown. -/
def shown (s : State) (withNumber : Bool) (j : Job) : Octets :=
  let jobs := ownJobs s
  let sign :=
    if (jobs.head?.map (·.number)) = some j.number then "+"
    else if ((jobs[1]?).map (·.number)) = some j.number then "-" else " "
  let text := "[" ++ toString j.index ++ "] " ++ sign ++ " " ++
    (if withNumber then toString j.number ++ " " else "") ++ standing s j
  let pipes := String.join (List.replicate (j.size - 1) " | ")
  Octets.line (text ++ "".pushn ' ' (max 1 (33 - text.length)) ++ pipes).toList

/-- Shows a job; one that has ended is forgotten then. -/
def display (numberOnly withNumber : Bool) (s : State) (j : Job) : State :=
  if numberOnly then s.print (Octets.line (Octets.ofNat j.number))
  else
    let s := s.print (shown s withNumber j)
    if j.finish ≤ s.machine.now then { s with jobs := s.jobs.filter (·.number != j.number) } else s

/-- Shows jobs. -/
def jobs : Builtin := fun args s =>
  s.withOptions "lp" args fun chosen names =>
    let display :=
      match chosen.getLast? with
      | some ('p', _) => display true false
      | some _ => display false true
      | none => display false false
    let s := s.reap.finish 0
    if names.isEmpty then (ownJobs s).foldl display s
    else
      s.forEach names fun s a =>
        match job? s a with
        | .ok j => display s j
        | .error why => s.abort why

/-- Waits for a job, and gives its status. -/
def waitFor (s : State) (j : Job) : Bool × State :=
  match s.waitUntil j.finish with
  | (some signal, s) => (false, s.finish (128 + signal.number))
  | (none, s) =>
    let s := if j.isReaped then s else s.tell j.ending s.machine.now
    (true, (putJob s { j with isReaped := true, isWaited := true }).reap.finish j.ending.status)

/-- Waits for all jobs. -/
def waitForAll (s : State) : State :=
  match s.waitUntil (((ownJobs s).map (·.finish)).foldl max s.machine.now) with
  | (some signal, s) => s.finish (128 + signal.number)
  | (none, s) =>
    let s := s.reap.finish 0
    { s with jobs := s.jobs.map fun j => { j with isWaited := j.isWaited || j.isOwn } }

/-- Waits for the jobs that are named, until a signal comes. -/
def waitForEach : List Octets → State → State
  | [], s => s
  | a :: rest, s =>
    let found : Except Octets (Option Job) :=
      if a.head? = some '%' then (job? s a).map some
      else
        match State.number? a with
        | some n => .ok ((ownJobs s).find? (·.number = n))
        | none => .error (State.illegalNumber a)
    match found with
    | .error why => s.abort why
    | .ok none => waitForEach rest (s.finish 127)
    | .ok (some j) =>
      match waitFor s j with
      | (true, s) => if s.flow = .on then waitForEach rest s else s
      | (false, s) => s

/-- Waits for jobs. -/
def wait : Builtin := fun args s =>
  s.withOptions "" args fun _ names =>
    if names.isEmpty then waitForAll s else waitForEach names s

/-- Moves a job to the front or to the back, which takes a terminal. -/
def move : Builtin := fun args s =>
  s.withOptions "" args fun _ names =>
    match names with
    | [] =>
      s.abort (if (ownJobs s).isEmpty then "No current job".toList
        else "job (null) not created under job control".toList)
    | a :: _ =>
      match job? s a with
      | .ok _ => s.abort ("job ".toList ++ a ++ " not created under job control".toList)
      | .error why => s.abort why

end Builtin
end Shell
end Host
end Remedy
