/-
# The state of a shell

What a shell remembers between commands, and the small operations on it.
-/

import Remedy.Host.Program.Basic
import Remedy.Host.Shell.Limits
import Remedy.Host.Shell.Options
import Remedy.Host.Shell.Reader
import Remedy.Host.Signal

namespace Remedy
namespace Host
namespace Shell

/-- Where a shell goes after a command. -/
inductive Flow where
  | on
  /-- Out of the shell, with its current status. -/
  | leave
  /-- Out of everything that an error ends, which may be the shell. -/
  | abandon
  /-- Out of so many loops. -/
  | leaveLoops (count : Nat)
  /-- To the next round of a loop, out of so many less one. -/
  | nextRound (count : Nat)
  /-- Out of a function or a file, with a status that has been given or not. -/
  | leaveFunction (isGiven : Bool)
  | killed (s : Signal)
  /-- Nowhere: the command does not end while anyone looks. -/
  | stuck
  deriving DecidableEq, Repr

/-- How a process ended. -/
inductive End where
  | exited (status : Nat)
  | killed (s : Signal)
  /-- It has not ended before the horizon. -/
  | unfinished
  deriving DecidableEq, Repr

/-- The status by which a shell knows how a process ended. -/
def End.status : End → Nat
  | exited n => n
  | killed s => 128 + s.number
  | unfinished => 0

/-- A command that runs beside the shell. -/
structure Job where
  /-- The number by which commands name it. -/
  index : Nat
  /-- The number of its process, which is the last one of a pipeline. -/
  number : Nat
  /-- How many processes are joined in it. -/
  size : Nat
  begun : Nat
  finish : Nat
  ending : End
  /-- The signals that it ignores. -/
  ignored : List Nat
  /-- Whether this shell has started it, and not one that this shell comes from. -/
  isOwn : Bool
  /-- Whether the shell has learnt of its end, so that its process is gone. -/
  isReaped : Bool
  /-- Whether its end has been asked for. -/
  isWaited : Bool

/-- What a variable was before something became local to a function. -/
structure Saved where
  name : Octets
  value : Option Octets
  isExported : Bool
  isConstant : Bool

/-- What is given back when a command ends that has variables of its own. -/
structure Locals where
  bindings : List Saved
  options : Option Options

/-- Nothing yet. -/
def Locals.nothing : Locals := ⟨[], none⟩

/-- The state of a shell. -/
structure State where
  machine : Machine
  process : Process
  /-- The path by which the shell has come to its directory. -/
  here : Octets
  /-- The number of the shell that was started, which its subshells share. -/
  root : Nat
  script : Octets
  /-- The part of the shell that is running, which complaints name. -/
  running : Option Octets
  arguments : List Octets
  /-- Which argument `getopts` reads next, and how far it has read the one before. -/
  optionIndex : Nat
  optionOffset : Option Nat
  bindings : List (Octets × Octets)
  /-- The variables that programs are given. -/
  exported : List Octets
  /-- The variables that keep their value. -/
  constants : List Octets
  /-- What is local, if a command is running that has variables of its own. -/
  locals : Option Locals
  functions : List (Octets × Command)
  aliases : List (Octets × Octets)
  /-- The programs that have been found, by their names. -/
  hashed : List (Octets × Octets)
  status : Nat
  /-- The status of the last command substitution since it was cleared. -/
  substituted : Nat
  lastJob : Option Nat
  jobs : List Job
  traps : List (Nat × Octets)
  /-- The signals that have come and wait for their traps. -/
  pending : List Nat
  /-- The signals that come to the shell that was started, and when. -/
  alarms : List (Nat × Signal)
  /-- The status of what a trap has interrupted. -/
  interrupted : Option Nat
  options : Options
  limits : Limits
  mask : Nat
  /-- How many loops enclose what is running. -/
  loops : Nat
  line : Nat
  /-- What a part of the shell has printed, but not yet written. -/
  printed : Octets
  flow : Flow

namespace State

/-- The variables of a shell that is started. -/
def initialVariables : List (Octets × Octets) :=
  [("IFS".toList, " \t\n".toList), ("OPTIND".toList, ['1']),
    ("PATH".toList, "/usr/local/sbin:/usr/local/bin:/usr/sbin:/usr/bin:/sbin:/bin".toList),
    ("PPID".toList, ['1']), ("PS1".toList, "# ".toList), ("PS2".toList, "> ".toList),
    ("PS4".toList, "+ ".toList)]

/-- The path of the directory in which a shell is started: the one that it is
given, if it leads there, and otherwise the one without links. -/
def initialPath (machine : Machine) (process : Process) : Octets :=
  let plain := Octets.ofText ("/" ++ "/".intercalate process.directory)
  match process.environment.lookup "PWD".toList with
  | none => plain
  | some path =>
    match machine.resolve process path with
    | .ok (l, .directory) => if path.head? = some '/' ∧ l = process.directory then path else plain
    | _ => plain

/-- A shell that starts on a script. -/
def start (machine : Machine) (process : Process) (options : Options) (script : Octets)
    (arguments : List Octets) : State :=
  let given := ("PWD".toList, initialPath machine process)
    :: process.environment.filter fun v => v.1 != "PWD".toList && Reader.isName v.1
  { machine := machine
    process := process
    here := initialPath machine process
    root := process.number
    script := script
    running := none
    arguments := arguments
    optionIndex := 1
    optionOffset := none
    bindings := given ++ initialVariables.filter fun v => !(given.map (·.1)).contains v.1
    exported := given.map (·.1)
    constants := []
    locals := none
    functions := []
    aliases := []
    hashed := []
    status := 0
    substituted := 0
    lastJob := none
    jobs := []
    traps := []
    pending := []
    alarms := []
    interrupted := none
    options := options
    limits := .initial
    mask := 0o022
    loops := 0
    line := 1
    printed := []
    flow := .on }

/-- The value of a variable. -/
def valueOf? (s : State) (name : Octets) : Option Octets := s.bindings.lookup name

/-- Gives a variable a value. -/
def assign (s : State) (name value : Octets) : State :=
  { s with
    bindings := (name, value) :: s.bindings.filter (·.1 != name)
    exported := if s.options.has "allexport" then name :: s.exported else s.exported
    hashed := if name = "PATH".toList then [] else s.hashed }

/-- A number as the parts of the shell take it. -/
def number? (cs : Octets) : Option Nat :=
  match Program.integer? cs with
  | some (.ofNat k) => if k < Nat.pow 2 31 then some k else none
  | _ => none

/-- What is said of a text that is no number. -/
def illegalNumber (cs : Octets) : Octets := "Illegal number: ".toList ++ cs

/-- What speaks against a change of a variable. -/
def objection? (s : State) (name : Octets) : Option Octets :=
  if s.constants.contains name then some (name ++ ": is read only".toList)
  else if !Reader.isName name then some (name ++ ": bad variable name".toList)
  else none

/-- Gives a variable a value, if it may have it. -/
def assign? (s : State) (name value : Octets) : Except Octets State :=
  match s.objection? name with
  | some why => .error why
  | none =>
    if name = "OPTIND".toList then
      match number? value with
      | some k => .ok { s.assign name value with optionIndex := max k 1, optionOffset := none }
      | none => .error (illegalNumber value)
    else .ok (s.assign name value)

/-- Forgets a variable, if that may be. -/
def unset? (s : State) (name : Octets) : Except Octets State :=
  match s.objection? name with
  | some why => .error why
  | none =>
    if name = "OPTIND".toList then .error (illegalNumber [])
    else
      .ok { s with
        bindings := s.bindings.filter (·.1 != name), exported := s.exported.filter (· != name)
        hashed := if name = "PATH".toList then [] else s.hashed }

/-- What a variable is now. -/
def saved (s : State) (name : Octets) : Saved :=
  ⟨name, s.valueOf? name, s.exported.contains name, s.constants.contains name⟩

/-- Notes what a variable is now, to be given back with the other locals. -/
def keep (s : State) (name : Octets) : State :=
  { s with
    locals := s.locals.map fun l => { l with bindings := s.saved name :: l.bindings } }

/-- Makes a variable what it was. -/
def restore (s : State) (old : Saved) : State :=
  let others := s.bindings.filter (·.1 != old.name)
  let without (xs : List Octets) : List Octets := xs.filter (· != old.name)
  { s with
    bindings := (old.value.map fun v => (old.name, v)).toList ++ others
    exported := (if old.isExported then [old.name] else []) ++ without s.exported
    constants := (if old.isConstant then [old.name] else []) ++ without s.constants
    hashed := if old.name = "PATH".toList then [] else s.hashed }

/-- Begins a command that has variables of its own. -/
def enter (s : State) : State := { s with locals := some .nothing }

/-- Ends a command that has variables of its own; `outer` is what was local before. -/
def depart (s : State) (outer : Option Locals) : State :=
  let inner := s.locals.getD .nothing
  let s := inner.bindings.foldl restore s
  { s with locals := outer, options := inner.options.getD s.options }

/-- The variables that programs are given. -/
def environment (s : State) : List (Octets × Octets) :=
  s.exported.eraseDups.filterMap fun x => (s.valueOf? x).map fun v => (x, v)

/-- The characters at which unquoted expansions are cut. -/
def separators (s : State) : Octets := (s.valueOf? "IFS".toList).getD " \t\n".toList

/-- What stands between arguments that are joined. -/
def separator (s : State) : Octets := s.separators.take 1

/-- What complaints of the shell begin with. -/
def caller (s : State) : Octets :=
  let place := s.script ++ ": ".toList ++ Octets.ofNat s.line
  match s.running with
  | none => place
  | some name => place ++ ": ".toList ++ name

/-- Ends a command with a status. -/
def finish (s : State) (status : Nat) : State := { s with status := status }

/-- Leaves the shell with a status. -/
def exit (s : State) (status : Nat) : State := { s with status := status, flow := .leave }

/-- Writes a complaint. -/
def complain (s : State) (message : Octets) : State :=
  { s with machine := s.machine.complain s.process (s.caller ++ ": ".toList ++ message) }

/-- Complains, and gives up what an error ends. -/
def abort (s : State) (message : Octets) : State :=
  { (s.complain message).finish 2 with flow := .abandon }

/-- Goes on with a state, or gives up. -/
def orAbort (s : State) (r : Except Octets State) : State :=
  match r with
  | .ok s => s
  | .error e => s.abort e

/-- Prints; what is printed is written when the part of the shell is done. -/
def print (s : State) (text : Octets) : State := { s with printed := s.printed ++ text }

/-- Writes what a part of the shell has printed; that it cannot be written is an
error of its own, unless another one has ended the part. -/
def flush (s : State) : State :=
  if s.printed.isEmpty then s
  else
    let (r, m) := s.machine.write s.process 1 s.printed
    let s := { s with machine := m, printed := [] }
    match r, s.flow with
    | .ok _, _ | .error _, .abandon => s
    | .error _, _ =>
      (s.complain (s.running.getD [] ++ ": I/O error".toList)).finish (s.status ||| 1)

/-- Whether this is the shell that was started, and not a subshell of it. -/
def isRoot (s : State) : Bool := s.process.number = s.root

/-- Lets some time pass, and notices when nobody looks any more. -/
def tick (s : State) (micros : Nat) : State :=
  let m := s.machine.pass micros
  { s with machine := m, flow := if m.isLate then .stuck else s.flow }

/-- The value of a parameter that is not a variable list, if it is set. -/
def parameter? (s : State) (name : Octets) : Option Octets :=
  match name with
  | ['#'] => some (Octets.ofNat s.arguments.length)
  | ['?'] => some (Octets.ofNat s.status)
  | ['$'] => some (Octets.ofNat s.root)
  | ['!'] => s.lastJob.map Octets.ofNat
  | ['-'] => some s.options.shown
  | _ =>
    match Program.natural? name with
    | some 0 => some s.script
    | some (n + 1) => s.arguments[n]?
    | none => s.valueOf? name

/-- A text between quotes that a shell would read back. -/
def quoted (cs : Octets) : Octets := go (cs.length + 1) cs
where
  /-- The text from some place on. -/
  go : Nat → Octets → Octets
    | 0, _ => []
    | n + 1, cs =>
      let plain := cs.takeWhile (· != '\'')
      let rest := cs.drop plain.length
      let quotes := rest.takeWhile (· = '\'')
      let first := '\'' :: plain ++ ['\'']
      if rest.isEmpty then first
      else
        let rest := rest.drop quotes.length
        let second := '"' :: quotes ++ ['"']
        if rest.isEmpty then first ++ second else first ++ second ++ go n rest

/-- Variables as commands that would make them, by name, with a word in front. -/
def shownVariables (s : State) (word : Octets) (names : List Octets) : Octets :=
  (names.eraseDups.mergeSort fun a b => !decide (b < a)).flatMap fun x =>
    word ++ x ++ Octets.line
      (match s.valueOf? x with
      | some v => '=' :: quoted v
      | none => [])

end State
end Shell
end Host
end Remedy
