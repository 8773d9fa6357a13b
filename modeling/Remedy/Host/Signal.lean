/-
# Signals

The names and numbers of the signals, and what becomes of a process that gets
one it has not prepared for.
-/

import Remedy.Text.Numeral

namespace Remedy
namespace Host

/-- A signal by its number. -/
structure Signal where
  number : Nat
  deriving DecidableEq, Repr

/-- What a signal does to a process that is not prepared for it. -/
inductive Effect where
  | kills
  | stops
  | ignored
  deriving DecidableEq, Repr

namespace Signal

/-- The names of the signals up to number 31, of which one has none but its number. -/
def plainNames : List String := ["EXIT", "HUP", "INT", "QUIT", "ILL", "TRAP", "ABRT", "BUS",
  "FPE", "KILL", "USR1", "SEGV", "USR2", "PIPE", "ALRM", "TERM", "16", "CHLD", "CONT", "STOP",
  "TSTP", "TTIN", "TTOU", "URG", "XCPU", "XFSZ", "VTALRM", "PROF", "WINCH", "IO", "PWR", "SYS"]

/-- The greatest number of a signal. -/
def last : Nat := 64

/-- The name of the signal with a number; the first is what stands for the end of a
shell. -/
def nameOf (n : Nat) : String :=
  if n < 32 then plainNames.getD n ""
  else if n < 34 then toString n
  else if n = 34 then "RTMIN"
  else if n < 50 then "RTMIN+" ++ toString (n - 34)
  else if n < last then "RTMAX-" ++ toString (last - n)
  else "RTMAX"

/-- What the signals up to number 33 mean, from number 1 on. -/
def meanings : List String := ["Hangup", "Interrupt", "Quit", "Illegal instruction",
  "Trace/breakpoint trap", "Aborted", "Bus error", "Floating point exception", "Killed",
  "User defined signal 1", "Segmentation fault", "User defined signal 2", "Broken pipe",
  "Alarm clock", "Terminated", "Stack fault", "Child exited", "Continued", "Stopped (signal)",
  "Stopped", "Stopped (tty input)", "Stopped (tty output)", "Urgent I/O condition",
  "CPU time limit exceeded", "File size limit exceeded", "Virtual timer expired",
  "Profiling timer expired", "Window changed", "I/O possible", "Power failure",
  "Bad system call", "Unknown signal 32", "Unknown signal 33"]

/-- The signal of a number, if it has one. -/
def ofNumber? (n : Nat) : Option Signal := if n ≤ last then some ⟨n⟩ else none

/-- The signal that a name or a number stands for, whatever the case; the names begin
with a number, which is at most 1. -/
def ofText? (first : Nat) (cs : List Char) : Option Signal :=
  if !cs.isEmpty && cs.all Char.isDigit then ofNumber? (Text.digitsValue cs)
  else
    ((List.range' first (last + 1 - first)).find? fun n =>
      (nameOf n).toUpper = (String.ofList cs).toUpper).map fun n => ⟨n⟩

/-- The signal that kills a process without appeal. -/
def kill : Signal := ⟨9⟩

/-- The signal that asks a process to end. -/
def term : Signal := ⟨15⟩

/-- The signal that tells of the end of a child. -/
def child : Signal := ⟨17⟩

/-- What a signal does to a process that is not prepared for it. -/
def effect (s : Signal) : Effect :=
  if [0, 17, 18, 23, 28].contains s.number then .ignored
  else if [19, 20, 21, 22].contains s.number then .stops
  else .kills

/-- Whether a process may prepare for a signal. -/
def isCatchable (s : Signal) : Bool := s.number != 9 && s.number != 19

/-- The name of a signal. -/
def name (s : Signal) : String := nameOf s.number

/-- What a signal means. -/
def meaning (s : Signal) : String :=
  meanings.getD (s.number - 1) ("Real-time signal " ++ toString (s.number - 34))

/-- What is said of a process that the signal has killed; nothing is said if a user or a
reader who has gone away is the cause. -/
def notice (s : Signal) : String := if s.number = 2 ∨ s.number = 13 then "" else s.meaning

end Signal
end Host
end Remedy
