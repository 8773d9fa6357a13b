/-
# How running an action ends

What a launcher answers is told by how the command of the action goes (`run_cases`).  A command that
cannot be started is a failure, and so is one that has not ended within the time limit; each other
command has a result, whatever its exit status is, and no other failure is ever answered.  A
launcher tells of the action before it is run, and once more if there is a result (`events_run`).

After the end of its process a command is waited for only as long as its outputs may be collected,
which is bounded (`duration_le`).  That the time limit is kept is seen by the program that does
nothing but wait (`run_sleep`).
-/

import Remedy.Execution.Launcher
import Remedy.Proofs.Results

namespace Remedy
namespace Execution
namespace Launcher

open Host (Course FileSystem Location Machine Obstacle Process Stream System.directory
  System.program System.launch)

variable {l : Launcher} {files : FileSystem} {a : Command.Action} {c : Course} {o : Obstacle}
  {r : Result} {place : Location} {program : String}

/-- How the command of an action goes. -/
def course (l : Launcher) (files : FileSystem) (a : Command.Action) : Except Obstacle Course :=
  System.launch files a.program a.args l.directory (l.limit * 1000 + 3 * grace)

/-- Whether a command has not ended within the time limit. -/
def Late (l : Launcher) (c : Course) : Prop :=
  c.ending = .unfinished ∨ l.limit * 1000 ≤ c.finished

/-- What has been read of the first output of a command, and of the second one after it. -/
def collected (c : Course) : List UInt8 × List UInt8 :=
  ((collect c.output c.finished).1, (collect c.errors (collect c.output c.finished).2).1)

/-- When both outputs of a command have been collected. -/
def collectedBy (c : Course) : Nat := (collect c.errors (collect c.output c.finished).2).2

/-- The result of a command that has ended. -/
def resultOf (c : Course) : Result := .ofExitStatus (exitStatus c.ending) (collectedBy c)

/-! ### The ways a run can go -/

/-- A command that cannot be started is a failure to start. -/
theorem run_of_error (h : l.course files a = .error o) :
    l.run files a = (.error (.spawn a.program o.message), [l.announcement a]) := by
  unfold course at h
  simp only [run, h]

/-- A command that is late is cut off. -/
theorem run_of_late (h : l.course files a = .ok c) (hlate : l.Late c) :
    l.run files a = (.error (.timeout a.target.text l.shownLimit), [l.announcement a]) := by
  unfold course at h
  simp only [run, h]
  exact if_pos hlate

/-- A command that ends in time has a result. -/
theorem run_of_ended (h : l.course files a = .ok c) (hlate : ¬l.Late c) :
    l.run files a = (.ok (resultOf c),
      [l.announcement a, summary a (resultOf c) (collected c).1 (collected c).2]) := by
  unfold course at h
  simp only [run, h]
  exact if_neg hlate

/-- **The three ways a run can go.** -/
theorem run_cases (l : Launcher) (files : FileSystem) (a : Command.Action) :
    (∃ o, l.course files a = .error o ∧
      l.run files a = (.error (.spawn a.program o.message), [l.announcement a])) ∨
    (∃ c, l.course files a = .ok c ∧ l.Late c ∧
      l.run files a = (.error (.timeout a.target.text l.shownLimit), [l.announcement a])) ∨
    ∃ c, l.course files a = .ok c ∧ ¬l.Late c ∧ l.run files a = (.ok (resultOf c),
      [l.announcement a, summary a (resultOf c) (collected c).1 (collected c).2]) := by
  cases h : l.course files a with
  | error o => exact .inl ⟨o, rfl, run_of_error h⟩
  | ok c =>
    by_cases hlate : l.Late c
    · exact .inr (.inl ⟨c, rfl, hlate, run_of_late h hlate⟩)
    · exact .inr (.inr ⟨c, rfl, hlate, run_of_ended h hlate⟩)

/-- **A run fails to start if and only if its command cannot be started,** and says of which program
and why. -/
theorem run_eq_spawn_iff {p m : String} : (l.run files a).1 = .error (.spawn p m) ↔
    ∃ o, l.course files a = .error o ∧ p = a.program ∧ m = o.message := by
  obtain ⟨o, h, hrun⟩ | ⟨c, h, -, hrun⟩ | ⟨c, h, -, hrun⟩ := run_cases l files a <;> rw [hrun, h]
  · simp only [Except.error.injEq, Failure.spawn.injEq, exists_eq_left', eq_comm]
  · simp
  · simp

/-- **A run is cut off if and only if its command is late,** and says for which service and after
what time. -/
theorem run_eq_timeout_iff {t : String} {ms : Nat} : (l.run files a).1 = .error (.timeout t ms) ↔
    (∃ c, l.course files a = .ok c ∧ l.Late c) ∧ t = a.target.text ∧ ms = l.shownLimit := by
  obtain ⟨o, h, hrun⟩ | ⟨c, h, hlate, hrun⟩ | ⟨c, h, hlate, hrun⟩ := run_cases l files a <;>
    rw [hrun, h]
  · simp
  · simp [hlate, eq_comm]
  · simp [hlate]

/-- **A run has a result if and only if its command ends in time.** -/
theorem run_eq_ok_iff : (l.run files a).1 = .ok r ↔
    ∃ c, l.course files a = .ok c ∧ ¬l.Late c ∧ r = resultOf c := by
  obtain ⟨o, h, hrun⟩ | ⟨c, h, hlate, hrun⟩ | ⟨c, h, hlate, hrun⟩ := run_cases l files a <;>
    rw [hrun, h]
  · simp
  · simp [hlate]
  · simp [hlate, eq_comm]

/-- A started command is never lost. -/
theorem run_ne_wait (p m : String) : (l.run files a).1 ≠ .error (.wait p m) := by
  obtain ⟨o, -, hrun⟩ | ⟨c, -, -, hrun⟩ | ⟨c, -, -, hrun⟩ := run_cases l files a <;> rw [hrun] <;>
    simp

/-- **What is told of a run:** the action before it is run, and the end of the command if and only
if there is a result. -/
theorem events_run (l : Launcher) (files : FileSystem) (a : Command.Action) :
    (∃ failure, l.run files a = (.error failure, [l.announcement a])) ∨
    ∃ r output errors, l.run files a = (.ok r, [l.announcement a, summary a r output errors]) := by
  obtain ⟨o, -, hrun⟩ | ⟨c, -, -, hrun⟩ | ⟨c, -, -, hrun⟩ := run_cases l files a
  · exact .inl ⟨_, hrun⟩
  · exact .inl ⟨_, hrun⟩
  · exact .inr ⟨_, _, _, hrun⟩

/-- The end of a command is information if it succeeded, and a warning otherwise. -/
theorem level_summary (a : Command.Action) (r : Result) (output errors : List UInt8) :
    (summary a r output errors).level = if r.succeeded then .info else .warn := by
  unfold summary
  split <;> rfl

/-! ### The result -/

/-- **A command succeeds if and only if it exits zero.** -/
theorem succeeded_resultOf_iff : (resultOf c).succeeded = true ↔ c.ending = .exited 0 := by
  rw [Result.succeeded_iff]
  cases h : c.ending <;> simp [resultOf, Result.ofExitStatus, exitStatus, h]

/-- **A process that is killed by a signal has the exit status `-1`,** which no process can choose,
and has not succeeded. -/
theorem exitStatus_resultOf_iff (hlate : ¬l.Late c) :
    (resultOf c).exitStatus = -1 ↔ ∃ s, c.ending = .killed s := by
  cases h : c.ending with
  | exited status => simp [resultOf, Result.ofExitStatus, exitStatus, h]
  | killed s => simp [resultOf, Result.ofExitStatus, exitStatus, h]
  | unfinished => exact absurd (.inl h) hlate

/-- An output is collected no earlier than asked for, and without much waiting. -/
theorem collect_le (s : Stream) (time : Nat) :
    time ≤ (collect s time).2 ∧ (collect s time).2 ≤ time + grace := by
  unfold collect
  split
  · exact ⟨Nat.le_max_left .., Nat.max_le.2 ⟨Nat.le_add_right .., ‹_›⟩⟩
  · exact ⟨Nat.le_add_right .., Nat.le_refl _⟩

/-- **An output that somebody else keeps open is given up,** with all that was read of it. -/
theorem collect_of_open {s : Stream} {time : Nat} (h : time + grace < s.closed) :
    collect s time = ([], time + grace) := if_neg (Nat.not_le.2 h)

/-- **A result takes no longer than the process and the collecting of two outputs,** and so there is
a bound for it. -/
theorem duration_le (h : (l.run files a).1 = .ok r) :
    ∃ c, l.course files a = .ok c ∧ c.finished ≤ r.duration ∧
      r.duration ≤ c.finished + 2 * grace ∧ r.duration < l.limit * 1000 + 2 * grace := by
  obtain ⟨c, hc, hlate, rfl⟩ := run_eq_ok_iff.1 h
  have hfinished : c.finished < l.limit * 1000 := Nat.lt_of_not_le fun hle => hlate (.inr hle)
  have houtput := collect_le c.output c.finished
  have herrors := collect_le c.errors (collect c.output c.finished).2
  have hduration : (resultOf c).duration =
    (collect c.errors (collect c.output c.finished).2).2 := rfl
  exact ⟨c, hc, by omega, by omega, by omega⟩

/-! ### What can be started -/

/-- The lengths of the arguments of an action in bytes, each with its end. -/
def sizes (a : Command.Action) : List Nat := a.argv.map fun t => t.utf8ByteSize + 1

/-- Whether a launcher can start the command of an action, in a place and as a program: no text of
it holds a null byte, place and program are there, and the arguments are not too long. -/
structure Starts (l : Launcher) (files : FileSystem) (a : Command.Action) (place : Location)
    (program : String) : Prop where
  plain : ∀ t ∈ a.argv, '\x00' ∉ t.toList
  directory : System.directory files l.directory = .ok place
  found : System.program files place a.program = .ok program
  each : ∀ size ∈ sizes a, size ≤ Host.System.maxArgument
  all : (sizes a).foldl (· + · + 8) 0 ≤ Host.System.maxArguments

/-- How the process of a command ends, and the machine after it. -/
def ended (l : Launcher) (files : FileSystem) (a : Command.Action) (place : Location)
    (program : String) : Host.Shell.End × Machine :=
  Host.Shell.runProgram Host.System.budget program (Host.Octets.ofText a.program)
    (a.args.map Host.Octets.ofText) ⟨10, place, Machine.descriptors, []⟩
    ((Machine.start files (l.limit * 1000 + 3 * grace)).pass Host.Shell.startTime)

/-- What is written to a pipe of a machine. -/
def streamOf (m : Machine) (pipe : Nat) : Stream :=
  ⟨Host.Octets.toBytes (m.written pipe), m.closing pipe⟩

/-- How a command goes, by how its process ends and the machine after it. -/
def courseOf (e : Host.Shell.End × Machine) : Course :=
  ⟨e.1, e.2.now, streamOf e.2 Machine.outputPipe, streamOf e.2 Machine.errorPipe⟩

/-- What is looked at before a command is started, all at once. -/
theorem launch_eq (l : Launcher) (files : FileSystem) (a : Command.Action) :
    l.course files a =
      if a.argv.any fun t => t.toList.contains '\x00' then .error .nullByte
      else System.directory files l.directory >>= fun place =>
        System.program files place a.program >>= fun program =>
          if (sizes a).any (Host.System.maxArgument < ·) ||
            Host.System.maxArguments < (sizes a).foldl (· + · + 8) 0 then
            .error (.refused .argumentsTooLong)
          else .ok (courseOf (l.ended files a place program)) := by
  simp only [course, System.launch, bind, Except.bind]
  rfl

/-- **A command goes somehow if and only if it can be started,** and then it goes as its process
does. -/
theorem course_eq_ok_iff : l.course files a = .ok c ↔
    ∃ place program, l.Starts files a place program ∧
      courseOf (l.ended files a place program) = c := by
  have hplain : (a.argv.any fun t => t.toList.contains '\x00') = false ↔
      ∀ t ∈ a.argv, '\x00' ∉ t.toList := by
    simp only [List.any_eq_false, List.contains_iff_mem]
  have hfits : ((sizes a).any (Host.System.maxArgument < ·) ||
      decide (Host.System.maxArguments < (sizes a).foldl (· + · + 8) 0)) = false ↔
      (∀ size ∈ sizes a, size ≤ Host.System.maxArgument) ∧
        (sizes a).foldl (· + · + 8) 0 ≤ Host.System.maxArguments := by
    simp only [Bool.or_eq_false_iff, List.any_eq_false, decide_eq_true_eq, decide_eq_false_iff_not,
      Nat.not_lt]
  rw [launch_eq]
  constructor
  · intro h
    split at h
    · cases h
    · next hnull =>
      obtain ⟨place, hplace, h⟩ := bind_eq_ok_iff.1 h
      obtain ⟨program, hfound, h⟩ := bind_eq_ok_iff.1 h
      split at h
      · cases h
      · next hlong =>
        obtain ⟨heach, hall⟩ := hfits.1 (Bool.eq_false_iff.2 hlong)
        exact ⟨place, program, ⟨hplain.1 (Bool.eq_false_iff.2 hnull), hplace, hfound, heach, hall⟩,
          Except.ok.inj h⟩
  · rintro ⟨place, program, h, rfl⟩
    rw [if_neg (Bool.eq_false_iff.1 (hplain.2 h.plain))]
    refine bind_eq_ok_iff.2 ⟨place, h.directory, bind_eq_ok_iff.2 ⟨program, h.found, ?_⟩⟩
    rw [if_neg (Bool.eq_false_iff.1 (hfits.2 ⟨h.each, h.all⟩))]

/-- **A run fails to start if and only if nothing can be started,** whatever the time limit is. -/
theorem run_eq_spawn_iff_not_starts : (∃ p m, (l.run files a).1 = .error (.spawn p m)) ↔
    ¬∃ place program, l.Starts files a place program := by
  constructor
  · rintro ⟨p, m, hrun⟩ ⟨place, program, hstarts⟩
    obtain ⟨o, ho, -⟩ := run_eq_spawn_iff.1 hrun
    rw [course_eq_ok_iff.2 ⟨place, program, hstarts, rfl⟩] at ho
    cases ho
  · intro hnone
    cases h : l.course files a with
    | error o => exact ⟨_, _, run_eq_spawn_iff.2 ⟨o, h, rfl, rfl⟩⟩
    | ok c =>
      obtain ⟨place, program, hstarts, -⟩ := course_eq_ok_iff.1 h
      exact absurd ⟨place, program, hstarts⟩ hnone

/-! ### A program that only waits -/

section
open Host.Shell (runProgram isShell program? startTime)
open Host.Program (Body Duration isOption wait)

/-- A program that is neither a shell nor starts another one does what it does, and closes what it
has open when it is done. -/
theorem runProgram_of_body {body : Body} (hshell : isShell program = false)
    (henv : program ≠ "env") (hbody : program? program = some body) (budget : Nat)
    (name : Host.Octets) (args : List Host.Octets) (p : Process) (m : Machine) :
    let done := body ⟨name, args, p⟩ m
    runProgram (budget + 1) program name args p m =
      (if done.2.isLate then .unfinished else .exited done.1, done.2.hold p done.2.now) := by
  unfold runProgram
  simp only [hshell, henv, hbody, if_false, Bool.false_eq_true]
  rfl

/-- A wait for one duration. -/
theorem sleep_eq {t : Host.Octets} {d : Duration} (hoption : isOption t = false)
    (hd : Duration.ofText? t = some d) (name : Host.Octets) (p : Process) (m : Machine) :
    Host.Program.sleep ⟨name, [t], p⟩ m = (0, wait m d) := by
  have hdash : (t != ['-', '-']) = true := bne_iff_ne.2 fun hdash => by
    rw [hdash] at hoption
    cases hoption
  have hdivided : Host.Program.divided [t] = ([], [t]) := by
    simp only [Host.Program.divided, List.takeWhile, hdash, List.partition, List.partition.loop,
      hoption]
    rfl
  simp [Host.Program.sleep, hdivided, hd]

variable {seconds : String} {d : Duration} (h : l.Starts files a place "sleep")
  (hargs : a.args = [seconds]) (hoption : isOption (Host.Octets.ofText seconds) = false)
include h hargs hoption

/-- **How a wait goes:** its process ends after the time, if that is before the horizon, and nothing
is written meanwhile. -/
theorem course_sleep (hd : Duration.ofText? (Host.Octets.ofText seconds) = some d) :
    let m := wait ((Machine.start files (l.limit * 1000 + 3 * grace)).pass startTime) d
    l.course files a = .ok ⟨if m.isLate then .unfinished else .exited 0, m.now,
      ⟨[], m.now⟩, ⟨[], m.now⟩⟩ := by
  intro m
  have hended : l.ended files a place "sleep" =
      (if m.isLate then .unfinished else .exited 0,
        m.hold ⟨10, place, Machine.descriptors, []⟩ m.now) := by
    unfold ended Host.System.budget
    rw [hargs, List.map_singleton, runProgram_of_body rfl (by decide) rfl 3999999,
      sleep_eq hoption hd]
  -- a wait only moves the clock, so nothing has been written or held before the process is done
  have hquiet : m.writes = [] ∧ m.holds = [] := by
    cases d <;> exact ⟨rfl, rfl⟩
  have hpipes : Host.Descriptors.pipes Machine.descriptors =
      [Machine.outputPipe, Machine.errorPipe] := rfl
  have hstreams : streamOf (m.hold ⟨10, place, Machine.descriptors, []⟩ m.now) Machine.outputPipe =
        ⟨[], m.now⟩ ∧
      streamOf (m.hold ⟨10, place, Machine.descriptors, []⟩ m.now) Machine.errorPipe =
        ⟨[], m.now⟩ := by
    constructor <;>
      simp [streamOf, Machine.written, Machine.chunks, Machine.closing, Machine.hold, hquiet,
        hpipes, Machine.outputPipe, Machine.errorPipe, Host.Octets.toBytes]
  refine course_eq_ok_iff.2 ⟨place, "sleep", h, ?_⟩
  rw [hended, courseOf, hstreams.1, hstreams.2]
  rfl

/-- **The time limit is kept:** a wait that takes no longer succeeds after its time, and any other
one is cut off. -/
theorem run_sleep {micros : Nat}
    (hd : Duration.ofText? (Host.Octets.ofText seconds) = some (.micros micros)) :
    (l.run files a).1 = if l.limit * 1000 ≤ startTime + micros
      then .error (.timeout a.target.text l.shownLimit)
      else .ok (.ofExitStatus 0 (startTime + micros)) := by
  have hcourse := course_sleep h hargs hoption hd
  have hlate : (wait ((Machine.start files (l.limit * 1000 + 3 * grace)).pass startTime)
      (.micros micros)).isLate = decide (l.limit * 1000 + 3 * grace < startTime + micros) := by
    simp [wait, Machine.pass, Machine.start, Machine.isLate]
  have hnow : (wait ((Machine.start files (l.limit * 1000 + 3 * grace)).pass startTime)
      (.micros micros)).now = startTime + micros := by
    simp [wait, Machine.pass, Machine.start]
  simp only [hlate, hnow, decide_eq_true_eq] at hcourse
  split
  · next hlimit => rw [run_of_late hcourse (.inr hlimit)]
  · next hlimit =>
    have hhorizon : ¬l.limit * 1000 + 3 * grace < startTime + micros := by omega
    rw [if_neg hhorizon] at hcourse
    have hended : ¬l.Late ⟨.exited 0, startTime + micros, ⟨[], startTime + micros⟩,
        ⟨[], startTime + micros⟩⟩ := by
      rintro (hunfinished | hle)
      · cases hunfinished
      · exact hlimit hle
    rw [run_of_ended hcourse hended]
    simp [resultOf, collectedBy, collect, exitStatus]

/-- A wait without end is cut off, whatever the time limit is. -/
theorem run_sleep_endless
    (hd : Duration.ofText? (Host.Octets.ofText seconds) = some .endless) :
    (l.run files a).1 = .error (.timeout a.target.text l.shownLimit) := by
  have hcourse := course_sleep h hargs hoption hd
  have hlate : (wait ((Machine.start files (l.limit * 1000 + 3 * grace)).pass startTime)
      .endless).isLate = true := by
    simp only [wait, Machine.never, Machine.passUntil, Machine.isLate]
    exact decide_eq_true (Nat.lt_of_lt_of_le (Nat.lt_succ_self _) (Nat.le_max_right ..))
  simp only [hlate, if_true] at hcourse
  rw [run_of_late hcourse (.inl rfl)]

end

/-- A wait of five seconds does not end within a tenth of one. -/
example :
    let files : FileSystem :=
      ⟨.directory [("usr", .directory [("bin", .directory [("sleep", .program "sleep")])])], []⟩
    (run ⟨100, none⟩ files ⟨⟨"sleep", [Command.placeholder]⟩, ⟨"5", by decide⟩⟩).1 =
      .error (.timeout "5" 100) := by
  intro files
  have hstarts : Starts ⟨100, none⟩ files ⟨⟨"sleep", [Command.placeholder]⟩, ⟨"5", by decide⟩⟩ []
      "sleep" := ⟨by decide +kernel, rfl, rfl, by decide +kernel, by decide +kernel⟩
  have hd : Host.Program.Duration.ofText? (Host.Octets.ofText "5") = some (.micros 5000000) := rfl
  have hrun := run_sleep hstarts rfl rfl hd
  rwa [if_pos (by decide)] at hrun

end Launcher
end Execution
end Remedy
