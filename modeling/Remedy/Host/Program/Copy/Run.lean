/-
# Copying blocks

Blocks are read, converted and written.  A block may come out shorter than it should
when it comes from a pipe, and still counts as one.  What is read is written at once
if that takes no conversion; otherwise it is gathered first.
-/

import Remedy.Host.Program.Copy.Conversion
import Remedy.Host.Program.Copy.Report

namespace Remedy
namespace Host
namespace Program
namespace Copy

/-- A copy that is under way. -/
structure Copying where
  call : Call
  order : Order
  machine : Machine
  /-- The process that copies, with what it reads and writes. -/
  process : Process
  begun : Nat
  read : Records
  written : Records
  bytes : Nat
  cut : Nat

namespace Copying

/-- The name of what is read. -/
def inputName (c : Copying) : Octets := c.order.input.getD "standard input".toList

/-- The name of what is written. -/
def outputName (c : Copying) : Octets := c.order.output.getD "standard output".toList

/-- Writes a complaint. -/
def complain (c : Copying) (message : Octets) : Copying :=
  { c with machine := (c.call.refuse 1 message c.machine).2 }

/-- Writes a complaint if anything is to be told. -/
def warn (c : Copying) (message : Octets) : Copying :=
  if c.order.report = .none then c else c.complain message

/-- A name in the front of a complaint, between quotes only if it needs them. -/
def fronted (name : Octets) : Octets :=
  if !name.isEmpty && name.all fun ch => ch.isAlphanum || "/._-+,:@%".toList.contains ch then name
  else named name

/-- Ends a copy. -/
def finish (c : Copying) (status : Nat) : Nat × Machine :=
  let closing (way : String) (name : Octets) : Nat × Machine :=
    c.call.refuse 1 (("closing " ++ way ++ " file ").toList ++ named name ++ ": ".toList
      ++ reason .badDescriptor) c.machine
  if (c.process.descriptors.lookup 0).isNone then closing "input" c.inputName
  else if (c.process.descriptors.lookup 1).isNone then closing "output" c.outputName
  else
    let told := lines? c.order.report c.read c.written c.cut c.bytes (c.machine.now - c.begun)
    (status, told.foldl (fun m l => m.complain c.process l) c.machine)

/-- Ends a copy that fails to read or write. -/
def fail (c : Copying) (what : String) (name : Octets) (r : Refusal) : Nat × Machine :=
  (c.complain (what.toList ++ named name ++ ": ".toList ++ reason r)).finish 1

/-- Reads a block. -/
def readBlock (c : Copying) (size : Nat) : Except Refusal Octets × Machine :=
  if c.order.inputFlags.contains "fullblock" then
    c.machine.readUpTo c.process 0 (size + 1) size
  else c.machine.read c.process 0 size

/-- Passes over blocks of a pipe, and says how many bytes that was. -/
def skipBlocks (c : Copying) : Nat → Nat → Except Refusal Nat × Copying
  | 0, skipped => (.ok skipped, c)
  | n + 1, skipped =>
    match c.readBlock c.order.readSize with
    | (.ok text, m) =>
      let c := { c with machine := m }
      if text.isEmpty then (.ok skipped, c) else skipBlocks c n (skipped + text.length)
    | (.error r, m) => (.error r, { c with machine := m })

/-- Passes over what is to be passed over of the input, and says how much that was. -/
def skip (c : Copying) (blocks bytes : Nat) : Except Refusal Nat × Copying :=
  let wanted := blocks * c.order.readSize + bytes
  match c.process.descriptors.lookup 0 with
  | some (.opened n) =>
    match c.machine.openings.lookup n with
    | some o =>
      let there := min wanted ((c.machine.textAt o.location).length - o.offset)
      (.ok there,
        { c with machine := c.machine.putOpening n { o with offset := o.offset + there } })
    | none => (.ok 0, c)
  | some (.device _ _ _) | some .directory => (.ok wanted, c)
  | _ =>
    match c.skipBlocks blocks 0 with
    | (.ok skipped, c) =>
      if bytes = 0 then (.ok skipped, c)
      else
        match c.readBlock bytes with
        | (.ok text, m) => (.ok (skipped + text.length), { c with machine := m })
        | (.error r, m) => (.error r, { c with machine := m })
    | r => r

/-- Goes on to a place in the output. -/
def seek (c : Copying) (distance : Nat) : Except Refusal Copying :=
  match c.process.descriptors.lookup 1 with
  | some (.opened n) =>
    match c.machine.openings.lookup n with
    | some o =>
      .ok { c with machine := c.machine.putOpening n { o with offset := o.offset + distance } }
    | none => .ok c
  | some (.device _ _ _) => .ok c
  | some _ => .error .illegalSeek
  | none => .error .badDescriptor

/-- Writes at an earlier time. -/
def writeAt (c : Copying) (time : Nat) (text : Octets) : Copying :=
  if text.isEmpty then c
  else
    let m := { c.machine with now := time }
    { c with machine := { (m.write c.process 1 text).2 with now := c.machine.now } }

/-- Blocks while they are read. -/
structure Intake where
  copying : Copying
  /-- What has been read and not been written, the last of it first. -/
  pending : List Octets
  /-- When the last of that was read. -/
  time : Nat
  /-- The size of the block before, if it was not a whole one. -/
  short : Option Nat
  failure : Option Refusal

/-- What is pending, in order. -/
def Intake.text (i : Intake) : Octets := i.pending.reverse.flatten

/-- Writes what is pending. -/
def Intake.flush (i : Intake) : Intake :=
  { i with copying := i.copying.writeAt i.time i.text, pending := [] }

/-- Reads blocks, at most so many; a last one may be limited in its size.  Unless
writing is possible, one is enough. -/
def takeIn (writable warns : Bool) : Nat → Option Nat → Nat → Intake → Intake
  | 0, _, _, i => i
  | n + 1, whole, bytes, i =>
    let c := i.copying
    let size := if whole = some 0 then bytes else c.order.readSize
    if size = 0 then i
    else
      match c.readBlock size with
      | (.error r, m) => { i with copying := { c with machine := m }, failure := some r }
      | (.ok block, m) =>
        let i := { i with copying := { c with machine := m } }
        if block.isEmpty then i
        else
          let i := if c.order.isDirect && i.time < m.now then i.flush else i
          let c := i.copying
          let warned : Copying × Bool :=
            match i.short with
            | some k =>
              if warns then
                (c.warn ("warning: partial read (" ++ toString k ++ (if k = 1 then " byte" else " bytes")
                  ++ "); suggest iflag=fullblock").toList, false)
              else (c, warns)
            | none => (c, warns)
          let c := warned.1
          let filled := c.order.filled block
          let c := { c with read := c.read.add c.order.readSize block.length }
          let c :=
            if c.order.isDirect && writable then
              { c with
                written := c.written.add c.order.readSize filled.length
                bytes := c.bytes + filled.length }
            else c
          let i : Intake :=
            ⟨c, filled :: i.pending, m.now, if block.length < size then some block.length else none,
              none⟩
          if (c.order.isDirect && !writable) || whole = some 0 then i
          else takeIn writable warned.2 n (whole.map (· - 1)) bytes i

/-- Copies from something without end, at most so many blocks and bytes, to something
that does not keep it; without a limit that does not end, except that a pipe to
another program takes only so much. -/
def pour (c : Copying) (limit : Option (Nat × Nat)) : Option (Nat × Machine) :=
  let isEndless : Bool :=
    match c.process.descriptors.lookup 0 with
    | some (.device d true _) => d != .null
    | _ => false
  if !isEndless then none
  else
    match c.process.descriptors.lookup 1, limit with
    | some (.device d _ true), some (blocks, bytes) =>
      if d = .full || !c.order.conversions.isEmpty then none
      else
        let size := blocks * c.order.readSize + bytes
        let c := { c with
          machine := c.machine.pass (size / 5000 + blocks / 3)
          read := ⟨blocks, if bytes = 0 then 0 else 1⟩
          written := if c.order.isDirect then ⟨blocks, if bytes = 0 then 0 else 1⟩
            else .ofSize c.order.writeSize size
          bytes := size }
        some (c.finish 0)
    | some (.device d _ true), none => if d = .full then none else some (0, c.machine.never)
    | some (.pipe n), none =>
      if n = Machine.outputPipe ∨ n = Machine.errorPipe then some (0, c.machine.never)
      else
        let text := c.order.converted (List.replicate Machine.enough '\x00')
        let m := (c.machine.write c.process 1 text).2
        some (141, { m with endless := n :: m.endless })
    | some (.opened _), none => some (0, c.machine.never)
    | _, _ => none

/-- Copies what is left after all preparations. -/
def copy (c : Copying) : Nat × Machine :=
  let limit := c.order.limit?
  match limit, c.pour limit with
  | some (0, 0), _ => c.finish 0
  | _, some r => r
  | _, none =>
    let writing := (c.machine.write c.process 1 ['\x00']).1
    let writable : Bool := writing.toOption.isSome
    let warns := c.order.isDirect && !c.order.inputFlags.contains "fullblock"
      && (c.order.skipped.1 != 0 || limit.any fun l => l.1 != 0)
    let (whole, bytes) : Option Nat × Nat :=
      match limit with
      | some (blocks, bytes) => (some blocks, bytes)
      | none => (none, 0)
    let fuel := (whole.getD (Nat.pow 2 40)) + 1
    let i := takeIn writable warns fuel whole bytes ⟨c, [], c.machine.now, none, none⟩
    let text := i.text
    let c := i.copying
    let (c, status) : Copying × Nat :=
      match i.failure with
      | some r =>
        (c.complain ("error reading ".toList ++ named c.inputName ++ ": ".toList ++ reason r), 1)
      | none => (c, 0)
    let done (c : Copying) (status : Nat) : Nat × Machine :=
      match writing with
      | .error r => if text.isEmpty then c.finish status else c.fail "error writing " c.outputName r
      | .ok _ => c.finish status
    if c.order.isDirect then done (if writable then { i with copying := c }.flush.copying else c) status
    else
      let out := c.order.converted text
      let c := { c with cut := c.order.truncations text }
      if writable then
        done { (c.writeAt c.machine.now out) with
          written := .ofSize c.order.writeSize out.length, bytes := out.length } status
      else done c status

/-- Passes over what is to be passed over, and copies. -/
def run (c : Copying) : Nat × Machine :=
  let (blocks, bytes) := c.order.skipped
  let wanted := blocks * c.order.readSize + bytes
  match if wanted = 0 then (.ok 0, c) else c.skip blocks bytes with
  | (.error r, c) => c.fail "error reading " c.inputName r
  | (.ok skipped, c) =>
    let c :=
      if skipped < wanted then c.warn (fronted c.inputName ++ ": cannot skip to specified offset".toList)
      else c
    let (blocks, bytes) := c.order.sought
    let distance := blocks * c.order.writeSize + bytes
    match if distance = 0 then .ok c else c.seek distance with
    | .error r =>
      (c.complain (fronted c.outputName ++ ": cannot seek: ".toList ++ reason r)).finish 1
    | .ok c => c.copy

end Copying

/-- Whether flags allow to open a path. -/
def allowed (m : Machine) (p : Process) (flags : List String) (path : Octets) :
    Except Refusal Unit :=
  if flags.contains "nofollow" && m.isLink p path then .error .tooManyLinks
  else if flags.contains "directory" then
    match m.resolve p path with
    | .ok (_, .directory) => .ok ()
    | .ok _ => .error .notDirectory
    | .error r => .error r
  else .ok ()

/-- Opens what is read. -/
def openInput (o : Order) (p : Process) (m : Machine) : Except (Octets × Refusal) (Process × Machine) :=
  match o.input with
  | none => .ok (p, m)
  | some path =>
    match allowed m p o.inputFlags path, m.openPath p path .read with
    | .ok _, .ok (c, m) => .ok (p.withChannel 0 c, m)
    | .error r, _ | _, .error r => .error (path, r)

/-- Cuts an output off behind the place where writing begins. -/
def cutOff (o : Order) (c : Channel) (m : Machine) : Machine :=
  let (blocks, bytes) := o.sought
  match c with
  | .opened n =>
    match m.openings.lookup n with
    | some f =>
      if blocks = 0 ∨ o.conversions.contains "notrunc" then m
      else
        let size := blocks * o.writeSize + bytes
        let old := (m.textAt f.location).take size
        m.putText f.location (old ++ List.replicate (size - old.length) '\x00')
    | none => m
  | _ => m

/-- Opens what is written. -/
def openOutput (o : Order) (p : Process) (m : Machine) : Except (Octets × Refusal) (Process × Machine) :=
  match o.output with
  | none => .ok (p, m)
  | some path =>
    let isThere : Bool := (m.resolve p path).toOption.isSome || m.isLink p path
    let access : Access :=
      ⟨false, true, !o.conversions.contains "nocreat",
        o.sought.1 = 0 && !o.conversions.contains "notrunc", o.outputFlags.contains "append", false⟩
    if isThere && o.conversions.contains "excl" then .error (path, .alreadyThere)
    else
      match allowed m p o.outputFlags path, m.openPath p path access with
      | .ok _, .ok (c, m) => .ok (p.withChannel 1 c, cutOff o c m)
      | .error r, _ | _, .error r => .error (path, r)

/-- Copies blocks. -/
def body : Body := fun c m =>
  let (options, operands) := divided c.args
  let warned (ws : List Octets) : Machine := ws.foldl (fun m w => (c.refuse 0 w m).2) m
  match options, Order.ofOperands operands with
  | o :: _, _ => c.refuse 1 (strange o ++ seeHelp c.caller) m
  | [], .error w =>
    c.refuse 1 (if w.seesHelp then w.message ++ seeHelp c.caller else w.message) (warned w.warnings)
  | [], .ok o =>
    let m := warned o.warnings
    let refused (e : Octets × Refusal) : Nat × Machine :=
      c.refuse 1 ("failed to open ".toList ++ named e.1 ++ ": ".toList ++ reason e.2) m
    match openInput o c.process m with
    | .error e => refused e
    | .ok (p, m) =>
      match openOutput o p m with
      | .error e => refused e
      | .ok (p, m) => (⟨c, o, m, p, m.now, .none, .none, 0, 0⟩ : Copying).run

end Copy
end Program
end Host
end Remedy
