/-
# A machine while a command runs

What a command does is told as a record of what it writes, when, and until when
it keeps its outputs open.  Time is counted in microseconds from the start of the
command, and only up to a *horizon*: what would happen later is of no interest.

The processes of a command share the machine; what each has open says where its
reading and writing goes.
-/

import Remedy.Host.Accounts
import Remedy.Host.Channel
import Remedy.Host.Source

namespace Remedy
namespace Host

/-- Something written to a pipe. -/
structure Write where
  time : Nat
  pipe : Nat
  owner : Nat
  text : Octets

/-- A pipe that a process keeps open. -/
structure Hold where
  pipe : Nat
  owner : Nat
  upTo : Nat

/-- The start of a process by another one. -/
structure Birth where
  number : Nat
  parent : Nat
  time : Nat

/-- What has been written to a file. -/
structure Content where
  text : Octets
  /-- When that was. -/
  changed : Nat

/-- The machine. -/
structure Machine where
  files : FileSystem
  /-- The files that have been written. -/
  contents : List (Location × Content)
  now : Nat
  horizon : Nat
  /-- What has been written to pipes, the last of it first. -/
  writes : List Write
  holds : List Hold
  sources : List (Nat × Source)
  openings : List (Nat × Opening)
  /-- The processes that have been started, the last one first. -/
  births : List Birth
  /-- The pipes whose writers would go on without end. -/
  endless : List Nat
  /-- The number that the next pipe, source or process gets. -/
  fresh : Nat

namespace Machine

/-- The pipe that is the output of the command. -/
def outputPipe : Nat := 1

/-- The pipe that takes the complaints of the command. -/
def errorPipe : Nat := 2

/-- The descriptors that a command starts with. -/
def descriptors : Descriptors :=
  [(0, .device .null true false), (1, .pipe outputPipe), (2, .pipe errorPipe)]

/-- A machine on which nothing has happened. -/
def start (files : FileSystem) (horizon : Nat) : Machine :=
  ⟨files, [], 0, horizon, [], [], [], [], [], [], 100⟩

/-- Whether the horizon has been passed. -/
def isLate (m : Machine) : Bool := m.horizon < m.now

/-- The machine after some time. -/
def pass (m : Machine) (micros : Nat) : Machine := { m with now := m.now + micros }

/-- The machine at a later time. -/
def passUntil (m : Machine) (time : Nat) : Machine := { m with now := max m.now time }

/-- Beyond the horizon: the command does not get further. -/
def never (m : Machine) : Machine := m.passUntil (m.horizon + 1)

/-- A number that nothing else has. -/
def number (m : Machine) : Nat × Machine := (m.fresh, { m with fresh := m.fresh + 1 })

/-- The number of a process that another one starts. -/
def bear (m : Machine) (parent : Nat) : Nat × Machine :=
  (m.fresh, { m with fresh := m.fresh + 1, births := ⟨m.fresh, parent, m.now⟩ :: m.births })

/-- What a file holds. -/
def textAt (m : Machine) (l : Location) : Octets :=
  match m.contents.lookup l with
  | some c => c.text
  | none => if l = ["etc", "passwd"] then Account.listing else []

/-- Replaces what a file holds. -/
def putText (m : Machine) (l : Location) (text : Octets) : Machine :=
  { m with contents := (l, ⟨text, m.now⟩) :: m.contents.filter (·.1 != l) }

/-- A text with another one written over it at a place; a gap is filled with zeros. -/
def overwritten (old : Octets) (offset : Nat) (text : Octets) : Octets :=
  old.take offset ++ List.replicate (offset - old.length) '\x00' ++ text
    ++ old.drop (offset + text.length)

/-- Replaces what is known of a file that is open. -/
def putOpening (m : Machine) (n : Nat) (o : Opening) : Machine :=
  { m with openings := (n, o) :: m.openings.filter (·.1 != n) }

/-- Replaces what is left to read of a pipe. -/
def putSource (m : Machine) (n : Nat) (s : Source) : Machine :=
  { m with sources := (n, s) :: m.sources.filter (·.1 != n) }

/-- Writes through a descriptor. -/
def write (m : Machine) (p : Process) (descriptor : Nat) (text : Octets) :
    Except Refusal Unit × Machine :=
  match p.descriptors.lookup descriptor with
  | some (.pipe n) =>
    (.ok (), if text.isEmpty then m
      else { m with writes := ⟨m.now, n, p.number, text⟩ :: m.writes })
  | some (.opened n) =>
    match m.openings.lookup n with
    | some o =>
      if o.writes then
        let old := m.textAt o.location
        let offset := if o.appends then old.length else o.offset
        (.ok (), (m.putText o.location (overwritten old offset text)).putOpening n
          { o with offset := offset + text.length })
      else (.error .badDescriptor, m)
    | none => (.error .badDescriptor, m)
  | some (.device d _ true) =>
    (if d = .full ∧ !text.isEmpty then .error .noSpace else .ok (), m)
  | _ => (.error .badDescriptor, m)

/-- Writes a line to the errors; that nobody may get it does not matter. -/
def complain (m : Machine) (p : Process) (message : Octets) : Machine :=
  (m.write p 2 (Octets.line message)).2

/-- The most that is read of something without end. -/
def enough : Nat := 65536

/-- The time goes on to the end of a read, which never comes for what is missing from
something without end. -/
def reached (m : Machine) (s : Source) (time : Nat) : Machine :=
  if s.isEndless && s.chunks.isEmpty then m.never else m.passUntil time

/-- Reads what there is, at most so many bytes. -/
def read (m : Machine) (p : Process) (descriptor count : Nat) : Except Refusal Octets × Machine :=
  match p.descriptors.lookup descriptor with
  | some (.source n) =>
    match m.sources.lookup n with
    | some s =>
      let (text, time, left) := s.next m.now count
      (.ok text, (if text.isEmpty then m.reached s time else m.passUntil time).putSource n left)
    | none => (.ok [], m)
  | some (.opened n) =>
    match m.openings.lookup n with
    | some o =>
      if o.reads then
        let text := ((m.textAt o.location).drop o.offset).take count
        (.ok text, m.putOpening n { o with offset := o.offset + text.length })
      else (.error .badDescriptor, m)
    | none => (.error .badDescriptor, m)
  | some (.device d true _) =>
    (.ok (if d = .null then [] else List.replicate count '\x00'), m)
  | some .directory => (.error .isDirectory, m)
  | _ => (.error .badDescriptor, m)

/-- Reads again and again, until there are so many bytes or no more. -/
def readUpTo (m : Machine) (p : Process) (descriptor : Nat) :
    Nat → Nat → Except Refusal Octets × Machine
  | 0, _ => (.ok [], m)
  | n + 1, count =>
    match m.read p descriptor count with
    | (.ok text, m) =>
      if text.isEmpty ∨ count ≤ text.length then (.ok text, m)
      else
        match readUpTo m p descriptor n (count - text.length) with
        | (.ok more, m) => (.ok (text ++ more), m)
        | (.error _, m) => (.ok text, m)
    | r => r

/-- Reads all there is. -/
def readAll (m : Machine) (p : Process) (descriptor : Nat) : Except Refusal Octets × Machine :=
  match p.descriptors.lookup descriptor with
  | some (.source n) =>
    match m.sources.lookup n with
    | some s =>
      let left := { s with chunks := [] }
      (.ok s.all, (m.reached left s.closed).putSource n left)
    | none => (.ok [], m)
  | some (.opened n) => m.read p descriptor (((m.openings.lookup n).map fun o =>
      (m.textAt o.location).length).getD 0)
  | some (.device .null true _) => (.ok [], m)
  | some (.device _ true _) => (.ok (List.replicate enough '\x00'), m.never)
  | _ => m.read p descriptor 1

/-- Reads up to the end of a line, and says whether there was one. -/
def readLine (m : Machine) (p : Process) (descriptor : Nat) :
    Except Refusal (Octets × Bool) × Machine :=
  match p.descriptors.lookup descriptor with
  | some (.source n) =>
    match m.sources.lookup n with
    | some s =>
      let (line, hasEnd, time, left) := Source.lineOf s.closed m.now s.chunks
      let left := { s with chunks := left }
      (.ok (line, hasEnd), (if hasEnd then m.passUntil time else m.reached left time).putSource n left)
    | none => (.ok ([], false), m)
  | some (.opened n) =>
    match m.openings.lookup n with
    | some o =>
      if o.reads then
        let text := (m.textAt o.location).drop o.offset
        let line := text.takeWhile (· != '\n')
        let hasEnd := line.length < text.length
        (.ok (line, hasEnd),
          m.putOpening n { o with offset := o.offset + line.length + if hasEnd then 1 else 0 })
      else (.error .badDescriptor, m)
    | none => (.error .badDescriptor, m)
  | some (.device .null true _) => (.ok ([], false), m)
  | some (.device _ true _) => (.ok ([], false), m.never)
  | _ =>
    let (r, m) := m.read p descriptor 1
    (r.map fun text => (text, false), m)

/-- The reading end of a new pipe. -/
def source (m : Machine) (s : Source) : Channel × Machine :=
  let (n, m) := m.number
  (.source n, m.putSource n s)

/-- Records that a process keeps its pipes open until a time. -/
def hold (m : Machine) (p : Process) (upTo : Nat) : Machine :=
  { m with holds := p.descriptors.pipes.map (fun n => ⟨n, p.number, upTo⟩) ++ m.holds }

/-- When the last process closes a pipe. -/
def closing (m : Machine) (pipe : Nat) : Nat :=
  ((m.holds.filter (·.pipe == pipe)).map (·.upTo)).foldl max 0

/-- What is written to a pipe and when, in order of time. -/
def chunks (m : Machine) (pipe : Nat) : List (Nat × Octets) :=
  let ws := (m.writes.filter (·.pipe == pipe)).reverse
  (ws.mergeSort fun a b => a.time ≤ b.time).map fun w => (w.time, w.text)

/-- What is written to a pipe, in order of time. -/
def written (m : Machine) (pipe : Nat) : Octets := (m.chunks pipe).flatMap (·.2)

/-- What can be read of a pipe whose writers are done. -/
def sourceOf (m : Machine) (pipe : Nat) : Source :=
  ⟨m.chunks pipe, m.closing pipe, m.endless.contains pipe⟩

/-- The machine without the record of a pipe. -/
def forget (m : Machine) (pipe : Nat) : Machine :=
  { m with writes := m.writes.filter (·.pipe != pipe), holds := m.holds.filter (·.pipe != pipe) }

/-- The machine on which a process ended at a time rather than later.  What it would
have started after that is not there either. -/
def cut (m : Machine) (owner time : Nat) : Machine :=
  let unborn := m.births.reverse.foldl (fun gone b =>
    if (b.parent = owner ∧ time < b.time) ∨ gone.contains b.parent then b.number :: gone
    else gone) []
  { m with
    writes := m.writes.filter fun w =>
      !unborn.contains w.owner && (w.owner != owner || w.time ≤ time)
    holds := (m.holds.filter fun h => !unborn.contains h.owner).map fun h =>
      if h.owner = owner then { h with upTo := min h.upTo time } else h }

end Machine
end Host
end Remedy
