/-
# Running scripts

Commands change the state of a shell.  Everything takes some time on the clock of
the machine, so a script that does not end reaches the horizon; a budget of steps
bounds the work as well, and a script that uses it up counts as not ending.

A command in the background is run to its end from the state at hand, and then the
clock is set back for the shell, so that what both write is merged by time.
-/

import Remedy.Host.Program.Environment
import Remedy.Host.Shell.Calling
import Remedy.Host.Shell.Expansion
import Remedy.Host.Shell.Invocation
import Remedy.Host.Shell.Redirect

namespace Remedy
namespace Host
namespace Shell

mutual

/-- Expands the parts of a word, which may begin it. -/
def expand : Nat → Mode → Bool → List Part → State → List Piece × State
  | 0, _, _, _, s => ([], { s with flow := .stuck })
  | _ + 1, _, _, [], s => ([], s)
  | n + 1, m, isFirst, p :: rest, s =>
    if s.flow ≠ .on then ([], s)
    else
      let (first, s) := expandPart n m isFirst rest.isEmpty p s
      let (more, s) := expand n m false rest s
      (first ++ more, s)

/-- Expands one part of a word. -/
def expandPart : Nat → Mode → Bool → Bool → Part → State → List Piece × State
  | 0, _, _, _, _, s => ([], { s with flow := .stuck })
  | n + 1, m, isFirst, isLast, p, s =>
    match p with
    | .text true cs => ([.fixed true cs], s)
    | .text false cs => (s.plainText m isFirst isLast cs, s)
    | .command quoted body =>
      let (cs, s) := capture n body s
      ([expanded quoted cs], s)
    | .arithmetic quoted body =>
      let (cs, s) := textOf n .document body s
      if s.flow = .on then s.calculate quoted cs else ([], s)
    | .parameter quoted name use => expandParameter n m quoted name use s

/-- Expands a parameter. -/
def expandParameter : Nat → Mode → Bool → Octets → Use → State → List Piece × State
  | 0, _, _, _, _, s => ([], { s with flow := .stuck })
  | n + 1, m, quoted, name, use, s =>
    let value? := s.value? name
    let orMissed (r : List Piece × State) : List Piece × State :=
      if s.options.has "nounset" && value?.isNone then
        ([], s.complainMissing name "parameter not set".toList)
      else r
    match use with
    | .value => orMissed (s.valuePieces quoted name, s)
    | .length => orMissed ([expanded quoted (Octets.ofNat (value?.getD []).length)], s)
    | .trim atEnd longest pattern =>
      if s.options.has "nounset" && value?.isNone then orMissed ([], s)
      else
        let (ps, s) := expand n .text true pattern s
        (s.trim m quoted name (value?.getD []) atEnd longest (Piece.pattern s.separator ps), s)
    | .fallback kind evenIfEmpty word =>
      let isMissing := value?.all fun cs => evenIfEmpty && cs.isEmpty
      match kind, isMissing with
      | .use, true | .instead, false => expand n m.inPlace true word s
      | .instead, true => ([], s)
      | .assign, true =>
        let (cs, s) := textOf n .text word s
        if s.flow ≠ .on then ([], s)
        else
          let s := s.orAbort (s.assign? name cs)
          (s.valuePieces quoted name, s)
      | .complain, true =>
        let (cs, s) := textOf n .text word s
        let why :=
          if !word.isEmpty then cs
          else ("parameter not set" ++ if evenIfEmpty then " or null" else "").toList
        ([], if s.flow = .on then s.complainMissing name why else s)
      | _, false => (s.valuePieces quoted name, s)
    | .wrong => ([], s.abort "Bad substitution".toList)

/-- The one text that a word stands for. -/
def textOf : Nat → Mode → Word → State → Octets × State
  | 0, _, _, s => ([], { s with flow := .stuck })
  | n + 1, m, w, s =>
    let (ps, s) := expand n m true w s
    (Piece.joined s.separator ps, s)

/-- Runs a command in a subshell and takes what it prints, without the newlines at
the end. -/
def capture : Nat → Command → State → Octets × State
  | 0, _, s => ([], { s with flow := .stuck })
  | _ + 1, .sequence [], s => ([], s)
  | n + 1, body, s =>
    let (pipe, m) := s.machine.number
    let child := ({ s with machine := m }.makeRoom.fork).point 1 (.pipe pipe)
    let t := s.join (close n (execute n .only body child))
    let text := (t.machine.written pipe).filter (· != '\x00')
    let m := (t.machine.passUntil (t.machine.closing pipe)).forget pipe
    let t := { t with machine := m, substituted := t.status, status := s.status }
    ((text.reverse.dropWhile (· = '\n')).reverse, t.tick 0)

/-- Expands words into arguments; `before` has those of the words before them, if they
are the words of a command. -/
def arguments : Nat → Option (List Octets) → List Word → State → List Octets × State
  | 0, _, _, s => ([], { s with flow := .stuck })
  | _ + 1, before, [], s => (before.getD [], s)
  | n + 1, before, w :: ws, s =>
    let assigned? := if before.any s.expectsAssignment then Reader.assigned? w else none
    let (args, s) :=
      match assigned? with
      | some (name, value) =>
        let (cs, s) := textOf n .assigned value s
        ([name ++ '=' :: cs], s)
      | none =>
        let (ps, s) := expand n .arguments true w s
        (s.argumentsOf ps, s)
    match before with
    | some before => arguments n (some (before ++ args)) ws s
    | none =>
      let (more, s) := arguments n none ws s
      (args ++ more, s)

/-- Expands the targets of redirections. -/
def targets : Nat → List Redirection → State → List Redirected × State
  | 0, _, s => ([], { s with flow := .stuck })
  | _ + 1, [], s => ([], s)
  | n + 1, r :: rest, s =>
    if s.flow ≠ .on then ([], s)
    else
      match r with
      | .document descriptor body =>
        let (cs, s) := textOf n .document body s
        let (more, s) := targets n rest s
        (.text descriptor cs :: more, s)
      | .of descriptor direction target =>
        let (cs, s) := textOf n .text target s
        match if s.flow = .on then Redirected.of? descriptor direction cs else none with
        | some r =>
          let (more, s) := targets n rest s
          (r :: more, s)
        | none => ([], if s.flow = .on then s.abort "Syntax error: Bad fd number".toList else s)

/-- Makes the assignments before a command, and says which they were.  They may be the
command's own, and may be for programs. -/
def assignAll : Nat → Bool → Bool → List (Octets × Word) → State → List Octets × State
  | 0, _, _, _, s => ([], { s with flow := .stuck })
  | _ + 1, _, _, [], s => ([], s)
  | n + 1, isOwn, isExported, (name, word) :: rest, s =>
    let (value, s) := textOf n .assigned word s
    if s.flow ≠ .on then ([], s)
    else
      let s := if isOwn then s.keep name else s
      let s := s.orAbort (s.assign? name value)
      let s := if isExported then { s with exported := name :: s.exported } else s
      if s.flow ≠ .on then ([], s)
      else
        let (more, s) := assignAll n isOwn isExported rest s
        ((name ++ '=' :: value) :: more, s)

/-- Shows a command that is about to run, if commands are to be shown. -/
def trace : Nat → Descriptors → List Octets → State → State
  | 0, _, _, s => { s with flow := .stuck }
  | n + 1, descriptors, words, s =>
    if s.flow ≠ .on || !s.options.has "xtrace" then s
    else
      let raw := (s.valueOf? "PS4".toList).getD []
      let quiet := { s with options := s.options.choose false "xtrace" }
      let (lead, t) :=
        match Reader.document? raw with
        | some w => textOf n .document w quiet
        | none => (raw, quiet)
      let shown := lead ++ [' '].intercalate words
      { t with
        options := t.options.choose true "xtrace"
        machine := t.machine.complain { t.process with descriptors := descriptors } shown }

/-- Runs a command, and what signals ask for before and after it. -/
def execute : Nat → Manner → Command → State → State
  | 0, _, _, s => { s with flow := .stuck }
  | n + 1, m, c, s =>
    if s.flow ≠ .on || s.options.has "noexec" then s
    else
      let s := answer n (s.tick stepTime).alert
      if s.flow ≠ .on then s
      else
        let s := (perform n m c s).alert
        let isChecked : Bool :=
          match c with
          | .simple .. | .subshell .. | .background _ | .pipeline _ => true
          | .redirected _ (.subshell ..) _ => true
          | _ => false
        let fails := isChecked && s.status != 0
        let s := answer n s
        if fails && !m.isTested && s.options.has "errexit" && s.isAlive then
          { s with flow := .leave }
        else s

/-- Runs the commands that wait for signals which have come. -/
def answer : Nat → State → State
  | 0, s => { s with flow := .stuck }
  | n + 1, s =>
    match s.flow, s.pending.min? with
    | .on, some k =>
      let s := { s with pending := s.pending.filter (· != k) }
      match s.traps.lookup k with
      | none => answer n s
      | some action =>
        let status := s.interrupted.getD s.status
        let (_, t) := runText n .plain false false (.start action)
          { s with interrupted := some status }
        match t.flow with
        | .leaveFunction true => { t with interrupted := s.interrupted }
        | .on | .leaveLoops _ | .nextRound _ | .leaveFunction false =>
          answer n { t with interrupted := s.interrupted, status := status }
        | _ => t
    | _, _ => s

/-- Runs a command. -/
def perform : Nat → Manner → Command → State → State
  | 0, _, _, s => { s with flow := .stuck }
  | n + 1, m, c, s =>
    match c with
    | .simple line assignments words rs => simple n m assignments words rs { s with line := line }
    | .sequence cs => executeAll n m cs s
    | .background c => launch n c s
    | .pipeline cs =>
      let (children, t) := members n m.isTested false cs none s
      t.afterAll children
    | .negation c =>
      let s := execute n .tested c s
      if s.isAlive then s.finish (if s.status = 0 then 1 else 0) else s
    | .both a b =>
      let s := execute n .tested a s
      if s.flow = .on ∧ s.status = 0 then execute n m b s else s
    | .either a b =>
      let s := execute n .tested a s
      if s.flow = .on ∧ s.status ≠ 0 then execute n m b s else s
    | .subshell line body => subshell n m body [] { s with line := line }
    | .branch condition yes no =>
      let s := execute n .tested condition s
      if s.flow ≠ .on then s
      else if s.status = 0 then execute n m yes s
      else
        match no with
        | .sequence [] => s.finish 0
        | no => execute n m no s
    | .loop wanted condition body =>
      (loop n m.inside wanted condition body 0 s.enterLoop).leaveLoop
    | .each line name words body =>
      let s := { s with line := line }
      let (items, s) :=
        match words with
        | some ws => arguments n none ws s
        | none => (s.arguments, s)
      if s.flow ≠ .on then s
      else if items.isEmpty then s.finish 0
      else (each n m.inside name items body s.enterLoop).leaveLoop
    | .select line subject arms =>
      let (cs, s) := textOf n .text subject { s with line := line }
      if s.flow ≠ .on then s else select n m cs arms s
    | .define name body =>
      { s with functions := (name, body) :: s.functions.filter (·.1 != name), status := 0 }
    | .redirected line (.subshell _ body) rs => subshell n m body rs { s with line := line }
    | .redirected line c rs =>
      let (targets, s) := targets n rs { s with line := line }
      if s.flow ≠ .on then s
      else
        let saved := s.process.descriptors
        match s.redirectAll targets with
        | (.error why, s) => ((s.complain why).withDescriptors saved).finish 2
        | (.ok _, s) => (execute n m.inside c s).withDescriptors saved

/-- Runs commands one after the other. -/
def executeAll : Nat → Manner → List Command → State → State
  | 0, _, _, s => { s with flow := .stuck }
  | _ + 1, _, [], s => s
  | n + 1, m, [c], s => execute n m c s
  | n + 1, m, c :: cs, s =>
    let s := execute n m.inside c s
    if s.flow = .on then executeAll n m cs s else s

/-- Runs a body as long as a condition has the wanted truth. -/
def loop : Nat → Manner → Bool → Command → Command → Nat → State → State
  | 0, _, _, _, _, _, s => { s with flow := .stuck }
  | n + 1, m, wanted, condition, body, last, s =>
    let (goesOn, s) := (execute n .tested condition s).round
    if s.flow ≠ .on then s
    else if !goesOn || (s.status == 0) != wanted then s.finish last
    else
      let (goesOn, s) := (execute n m body s).round
      if goesOn then loop n m wanted condition body s.status s else s

/-- Runs a body for each of some values of a variable. -/
def each : Nat → Manner → Octets → List Octets → Command → State → State
  | 0, _, _, _, _, s => { s with flow := .stuck }
  | _ + 1, _, _, [], _, s => s
  | n + 1, m, name, item :: items, body, s =>
    let s := s.orAbort (s.assign? name item)
    let (goesOn, s) := (execute n m body s).round
    if goesOn then each n m name items body s else s

/-- Runs the first arm that has a pattern which matches. -/
def select : Nat → Manner → Octets → List (List Word × Command) → State → State
  | 0, _, _, _, s => { s with flow := .stuck }
  | _ + 1, _, _, [], s => s.finish 0
  | n + 1, m, subject, (patterns, body) :: arms, s =>
    match anyFits n subject patterns s with
    | (true, s) =>
      match body with
      | .sequence [] => s.finish 0
      | body => execute n m body s
    | (false, s) => if s.flow = .on then select n m subject arms s else s

/-- Whether any of some patterns matches. -/
def anyFits : Nat → Octets → List Word → State → Bool × State
  | 0, _, _, s => (false, { s with flow := .stuck })
  | _ + 1, _, [], s => (false, s)
  | n + 1, subject, p :: patterns, s =>
    let (ps, s) := expand n .text true p s
    if s.flow ≠ .on then (false, s)
    else if Wildcard.fits (Piece.pattern s.separator ps) subject then (true, s)
    else anyFits n subject patterns s

/-- Runs a command in a subshell, or in the shell itself if that has nothing else to do. -/
def subshell : Nat → Manner → Command → List Redirection → State → State
  | 0, _, _, _, s => { s with flow := .stuck }
  | n + 1, m, body, rs, s =>
    let (targets, s) := targets n rs s
    let inside (m : Manner) (s : State) : State :=
      match s.redirectAll targets with
      | (.error why, s) => s.abort why
      | (.ok _, s) => execute n m body s
    if s.flow ≠ .on then s
    else if m.isLast && !s.hasTraps then
      let s := inside m { s with loops := 0 }
      if s.isAlive then { s with flow := .leave } else s
    else
      let s := s.makeRoom
      (s.join (close n (inside { m with isLast := true } s.fork))).tick 0

/-- Starts a command in the background. -/
def launch : Nat → Command → State → State
  | 0, _, s => { s with flow := .stuck }
  | n + 1, c, s =>
    let s := s.makeRoom
    let begun := s.machine.now
    let alone (s : State) (run : State → State) : State :=
      let child := close n (run (s.fork.point 0 (.device .null true false)))
      ({ s with machine := child.leftBehind }.learn child).launched [child] begun
    match c with
    | .pipeline cs =>
      let (children, t) := members n false true cs none s
      t.launched children begun
    | .redirected _ (.subshell ..) _ => alone s (execute n .only c)
    | .redirected line c rs =>
      let (targets, s) := targets n rs { s with line := line }
      if s.flow ≠ .on then s
      else
        alone s fun s =>
          match s.redirectAll targets with
          | (.error why, s) => s.abort why
          | (.ok _, s) => execute n .only c s
    | c => alone s (execute n .only c)

/-- Runs commands that are joined by pipes, each in a subshell and all from the same
time on; `input` is what the first of them reads, if it comes from a pipe.  The
subshells are given as they ended. -/
def members : Nat → Bool → Bool → List Command → Option Channel → State → List State × State
  | 0, _, _, _, _, s => ([], { s with flow := .stuck })
  | _ + 1, _, _, [], _, s => ([], s)
  | n + 1, isTested, inBackground, c :: cs, input, s =>
    let s := (if input.isNone then s.makeRoom else s).prepare c
    let begun := s.machine.now
    let (pipe, m) := s.machine.number
    let child := { s with machine := m }.fork
    let child :=
      match input with
      | some channel => child.point 0 channel
      | none => if inBackground then child.point 0 (.device .null true false) else child
    let child := if cs.isEmpty then child else child.point 1 (.pipe pipe)
    let child := close n (execute n ⟨isTested, true⟩ c child)
    let m := child.leftBehind
    let t := { s with machine := m }.learn child
    if cs.isEmpty then ([child], t)
    else
      let (channel, m) := (m.forget pipe).source (m.sourceOf pipe)
      let (children, t) := members n isTested inBackground cs (some channel)
        { t with machine := { m with now := begun } }
      (child :: children, { t with machine := t.machine.passUntil child.machine.now })

/-- Runs a simple command. -/
def simple : Nat → Manner → List (Octets × Word) → List Word → List Redirection → State → State
  | 0, _, _, _, _, s => { s with flow := .stuck }
  | n + 1, m, assignments, words, rs, s =>
    let (args, s) := arguments n (some []) words { s with substituted := 0 }
    let called := s.calling? args
    let (targets, s) := if s.flow = .on then targets n rs s else ([], s)
    if s.flow ≠ .on then s
    else
      let saved := s.process.descriptors
      let isExec := called.any (·.name = "exec".toList)
      match s.redirectAll targets with
      | (.error why, s) =>
        let s := ((s.complain why).withDescriptors saved).finish 2
        if called.any (·.isSpecial) then { s with flow := .abandon } else s
      | (.ok _, s) =>
        let isOwn := called.any (!·.isSpecial)
        let isExported := isOwn || (isExec && called.any (!·.args.isEmpty))
        let outer := s.locals
        let s := if isOwn then s.enter else s
        let (assigned, s) := assignAll n isOwn isExported assignments s
        let s := trace n saved (assigned ++ args) s
        let s :=
          if s.flow ≠ .on then s
          else
            match called with
            | some c => invoke n m c s
            | none => s.finish s.substituted
        let s := if isOwn then s.depart outer else s
        if isExec && s.flow = .on then s else s.withDescriptors saved

/-- Runs what is called: a function, a part of the shell or a program. -/
def invoke : Nat → Manner → Calling → State → State
  | 0, _, _, s => { s with flow := .stuck }
  | n + 1, m, c, s =>
    match s.function? c with
    | some body =>
      let t := execute n m.inside body
        { s with arguments := c.args, optionIndex := 1, optionOffset := none, loops := 0 }
      { t.returned with
        arguments := s.arguments, optionIndex := s.optionIndex, optionOffset := s.optionOffset
        loops := s.loops }
    | none =>
      if isBuiltin c.name then
        let t := (runBuiltin n m c { s with running := some c.name }).flush
        let t := { t with running := s.running }
        if t.flow = .abandon && !c.isSpecial then { t with flow := .on, loops := s.loops } else t
      else
        match s.find c.bySystem c.name with
        | .refused r =>
          (s.complain (c.name ++ ": ".toList ++ whyNotRun r)).finish
            (State.statusOfRefusal c.name r)
        | .program program path =>
          let s := if c.bySystem then s else s.remember c.name path
          let p := { s.process with environment := s.environment }
          if m.isLast && !s.hasTraps then
            let (e, machine) := runProgram n program c.name c.args p (s.machine.pass startTime)
            s.replaced e machine
          else
            let s := s.makeRoom
            let (number, machine) := s.machine.bear s.process.number
            let (e, machine) := runProgram n program c.name c.args { p with number := number }
              (machine.pass startTime)
            ({ s with machine := machine }.after e).tick 0

/-- Runs a part of the shell. -/
def runBuiltin : Nat → Manner → Calling → State → State
  | 0, _, _, s => { s with flow := .stuck }
  | n + 1, m, c, s =>
    match String.ofList c.name with
    | "eval" =>
      match c.args with
      | [] => s.finish 0
      | args =>
        let (hasRun, t) := runText n m.inside false false (.start ([' '].intercalate args)) s
        if hasRun then t else t.finish 0
    | "." =>
      s.withOptions "" c.args fun _ operands =>
        match operands with
        | [] => s.finish 0
        | name :: _ =>
          match s.script? name with
          | none => s.abort (name ++ ": not found".toList)
          | some path =>
            match s.machine.textOf s.process path with
            | (.ok text, machine) =>
              let s := { s with machine := machine, running := some path }
              let (hasRun, t) := runText n .plain true false (.start text) s
              if hasRun then t.returned else t.finish 0
            | (.error .isDirectory, machine) => { s with machine := machine }.finish 0
            | (.error r, machine) =>
              let why := if isMissing r then "No such file".toList else Program.reason r
              { s with machine := machine }.abort
                ("cannot open ".toList ++ path ++ ": ".toList ++ why)
    | "exec" =>
      s.withOptions "" c.args fun _ operands =>
        match operands with
        | [] => s.finish 0
        | name :: args =>
          match s.find false name with
          | .program program _ =>
            let p := { s.process with environment := s.environment }
            let (e, machine) := runProgram n program name args p (s.machine.pass startTime)
            s.replaced e machine
          | .refused r =>
            (s.complain (name ++ ": ".toList ++ whyNotRun r)).exit
              (if isMissing r then 127 else 126)
    | "command" =>
      s.withOptions "pvV" c.args fun chosen names =>
        let asked := (chosen.map (·.1)).filter (· != 'p')
        match asked, names with
        | _ :: _, name :: _ =>
          Builtin.describe (asked.contains 'V') (chosen.any (·.1 = 'p')) name s
        | _, _ => s.finish 0
    | name =>
      match builtin? name with
      | some run => run c.args s
      | none => s.finish 0

/-- Runs a program in a process of its own, and says how it ends. -/
def runProgram : Nat → String → Octets → List Octets → Process → Machine → End × Machine
  | 0, _, _, _, _, m => (.unfinished, m)
  | n + 1, program, name, args, p, m =>
    let settled (e : End) (m : Machine) : End × Machine :=
      let m := m.hold p m.now
      (if m.isLate then .unfinished else e, m)
    let ran (body : Program.Body) (p : Process) : End × Machine :=
      let (status, m) := body ⟨name, args, p⟩ m
      settled (.exited status) m
    if isShell program then
      let (e, m) := runShell n name args p m
      settled e m
    else if program = "env" then
      match Program.Environment.ofArguments name p args with
      | .ok (p, []) => ran Program.Environment.print p
      | .ok (p, wanted :: args) =>
        let path := (p.environment.lookup "PATH".toList).getD "/bin:/usr/bin".toList
        match lookup m p path wanted with
        | .program program _ => runProgram n program wanted args p m
        | .refused r =>
          let message := name ++ ": ".toList ++ Program.quoted wanted ++ ": ".toList ++
            Program.reason r
          settled (.exited (if isMissing r then 127 else 126)) (m.complain p message)
      | .error message => settled (.exited 125) (m.complain p message)
    else
      match program? program with
      | some body => ran body p
      | none => settled (.exited 0) m

/-- Runs a shell with its arguments. -/
def runShell : Nat → Octets → List Octets → Process → Machine → End × Machine
  | 0, _, _, _, m => (.unfinished, m)
  | n + 1, name, args, p, m =>
    match Invocation.ofArguments name args with
    | .error why => (.exited 2, m.complain p (name ++ ": 0: ".toList ++ why))
    | .ok i =>
      let m :=
        if i.wantsTerminal then
          m.complain p (name ++ ": 0: can't access tty; job control turned off".toList)
        else m
      let (text, m) : Except Refusal Octets × Machine :=
        match i.source with
        | .text cs => (.ok cs, m)
        | .input => m.readAll p 0
        | .file path => m.textOf p path
      match text with
      | .error .isDirectory => (.exited 0, m)
      | .error r =>
        let why := if isMissing r then "No such file".toList else Program.reason r
        (.exited 2, m.complain p
          (name ++ ": 0: cannot open ".toList ++ i.script ++ ": ".toList ++ why))
      | .ok text =>
        let s := State.start m p i.options i.script i.arguments
        let (isFile, manner) : Bool × Manner :=
          match i.source with
          | .text _ => (false, .only)
          | _ => (true, .plain)
        let s := close n (runText n manner isFile false (.start text) s).2
        (s.ending, s.machine)

/-- Runs the commands of a text, line by line; and says whether there were any.  The
lines of a file are shown if that is asked for. -/
def runText : Nat → Manner → Bool → Bool → Cursor → State → Bool × State
  | 0, _, _, hasRun, _, s => (hasRun, { s with flow := .stuck })
  | n + 1, m, isFile, hasRun, cursor, s =>
    let shown (after : Cursor) (s : State) : State :=
      if isFile && s.options.has "verbose" then
        let text := cursor.rest.take (cursor.rest.length - after.rest.length)
        { s with machine := (s.machine.write s.process 2 text).2 }
      else s
    match (Reader.line? (Reader.budget cursor.rest)) { cursor with aliases := s.aliases } with
    | .error e => (true, { s with line := e.line }.abort e.message)
    | .ok (none, after) => (hasRun, shown after s)
    | .ok (some c, after) =>
      let isOver : Bool :=
        match after.ahead with
        | some .ended => true
        | _ => false
      let isNothing : Bool :=
        match c with
        | .sequence [] => true
        | _ => false
      let s := execute n { m with isLast := m.isLast && isOver } c (shown after s)
      if s.flow = .on then runText n m isFile (hasRun || !isNothing) after s else (true, s)

/-- Ends a shell: runs what is to be run then.  The status stays, unless another one is
given. -/
def close : Nat → State → State
  | 0, s => { s with flow := .stuck }
  | n + 1, s =>
    match s.flow, s.traps.lookup 0 with
    | .killed _, _ | .stuck, _ | _, none => s
    | _, some action =>
      let (_, t) := runText n .plain false false (.start action)
        { s with
          flow := .on, traps := s.traps.filter (·.1 != 0), interrupted := some s.status
          printed := [], loops := 0 }
      match t.flow with
      | .killed _ | .stuck | .leave | .abandon => t
      | _ => t.finish s.status

end

end Shell
end Host
end Remedy
