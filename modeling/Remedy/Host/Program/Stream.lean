/-
# Programs that copy and select

They take their text from files or from the input, and print what is asked for.
-/

import Remedy.Host.Program.Escape
import Remedy.Host.Program.Basic

namespace Remedy
namespace Host
namespace Program

/-- The text of a file, `-` being the input; as much as is asked for. -/
def textOf (c : Call) (count : Option Nat) (path : Octets) (m : Machine) :
    Except Octets Octets × Machine :=
  let told (r : Except Refusal Octets × Machine) : Except Octets Octets × Machine :=
    match r with
    | (.ok text, m) => (.ok text, m)
    | (.error e, m) => (.error (path ++ ": ".toList ++ reason e), m)
  let read (p : Process) (m : Machine) : Except Octets Octets × Machine :=
    match count with
    | some n => told (m.readUpTo p 0 (n + 1) n)
    | none => told (m.readAll p 0)
  if path = ['-'] then read c.process m
  else
    match m.openPath c.process path .read with
    | .ok (channel, m) => read (c.process.withChannel 0 channel) m
    | .error r => told (.error r, m)

/-- Prints what becomes of the text of each file; files that cannot be read are
complained about. -/
def eachFile (c : Call) (count : Option Nat) (paths : List Octets)
    (complaint : Octets → Octets) (f : Octets → Octets) (m : Machine) : Nat × Machine :=
  paths.foldl (fun (status, m) path =>
    match textOf c count path m with
    | (.ok text, m) =>
      let (worse, m) := c.print (f text) m
      (max status worse, m)
    | (.error e, m) => (1, m.complain c.process (c.caller ++ ": ".toList ++ complaint e))) (0, m)

/-- The files that are named, or else the input. -/
def filesOrInput (args : List Octets) : List Octets := if args.isEmpty then [['-']] else args

/-- Copies files to the output. -/
def cat : Body := fun c m =>
  eachFile c none (filesOrInput (c.args.filter (· != ['-', 'u']))) id id m

/-- The first lines of a text. -/
def firstLines : Nat → Octets → Octets
  | 0, _ => []
  | _ + 1, [] => []
  | n + 1, c :: rest => c :: if c = '\n' then firstLines n rest else firstLines (n + 1) rest

/-- How much of a text is asked for. -/
inductive Extent where
  | bytes (n : Nat)
  | lines (n : Nat)

/-- Reads how much is asked for off the options; the rest are files. -/
def extent : List Octets → Extent × List Octets
  | ['-', 'c'] :: n :: rest => (.bytes ((natural? n).getD 0), rest)
  | ['-', 'n'] :: n :: rest => (.lines ((natural? n).getD 10), rest)
  | ('-' :: 'c' :: n) :: rest => (.bytes ((natural? n).getD 0), rest)
  | ('-' :: 'n' :: n) :: rest => (.lines ((natural? n).getD 10), rest)
  | ('-' :: d :: n) :: rest =>
    match natural? (d :: n) with
    | some k => (.lines k, rest)
    | none => (.lines 10, ('-' :: d :: n) :: rest)
  | args => (.lines 10, args)

/-- How a file that cannot be read is complained about. -/
def cannotRead (e : Octets) : Octets :=
  let path := e.takeWhile (· != ':')
  "cannot open ".toList ++ quoted path ++ " for reading".toList ++ e.drop path.length

/-- The beginning of files. -/
def head : Body := fun c m =>
  let (e, files) := extent c.args
  match e with
  | .bytes n => eachFile c (some n) (filesOrInput files) cannotRead (·.take n) m
  | .lines n => eachFile c none (filesOrInput files) cannotRead (firstLines n) m

/-- The last lines of a text. -/
def lastLines (n : Nat) (text : Octets) : Octets :=
  let lines := text.filter (· = '\n')
  let whole := lines.length + if text.getLast?.all (· = '\n') then 0 else 1
  text.drop (firstLines (whole - n) text).length

/-- The end of files. -/
def tail : Body := fun c m =>
  let (e, files) := extent c.args
  let select (text : Octets) : Octets :=
    match e with
    | .bytes n => text.drop (text.length - n)
    | .lines n => lastLines n text
  eachFile c none (filesOrInput files) cannotRead select m

/-- The numbers from one to another, a step apart. -/
def sequence (first step last : Int) : List Int :=
  if step = 0 then []
  else
    let count := Int.fdiv (last - first) step + 1
    (List.range count.toNat).map fun i => first + step * Int.ofNat i

/-- Prints numbers, each on its line. -/
def seq : Body := fun c m =>
  let invalid (a : Octets) : Nat × Machine :=
    c.refuse 1 ("invalid floating point argument: ".toList ++ quoted a ++ seeHelp c.caller) m
  match c.args.find? fun a => (integer? a).isNone with
  | some a => invalid a
  | none =>
    let print (ns : List Int) : Nat × Machine :=
      c.print (ns.flatMap fun n => Octets.line (Octets.ofInt n)) m
    match c.args.filterMap integer? with
    | [] => c.refuse 1 ("missing operand".toList ++ seeHelp c.caller) m
    | [last] => print (sequence 1 1 last)
    | [first, last] => print (sequence first 1 last)
    | first :: step :: last :: _ => print (sequence first step last)

/-- The characters that a set of `tr` describes, as far as a number of steps goes. -/
def expandSet : Nat → Octets → Octets
  | 0, _ => []
  | _ + 1, [] => []
  | n + 1, a :: '-' :: b :: rest =>
    (List.range (b.toNat + 1 - a.toNat)).map (fun i => Char.ofNat (a.toNat + i)) ++ expandSet n rest
  | n + 1, c :: rest => c :: expandSet n rest

/-- Replaces or deletes characters. -/
def tr : Body := fun c m =>
  let set (cs : Octets) : Octets :=
    let (cs, _) := Escapes.decode ⟨false, false, false⟩ cs
    expandSet (cs.length + 1) cs
  match c.args with
  | [['-', 'd'], a] =>
    let gone := set a
    eachFile c none [['-']] id (·.filter fun ch => !gone.contains ch) m
  | [a, b] =>
    let old := set a
    let new := set b
    eachFile c none [['-']] id (·.map fun ch =>
      match old.idxOf? ch with
      | some i => (new[i]?).getD (new.getLastD ch)
      | none => ch) m
  | _ => c.refuse 1 ("missing operand".toList ++ seeHelp c.caller) m

/-- Counts the bytes or the lines of the input. -/
def wc : Body := fun c m =>
  let count (text : Octets) : Nat :=
    if c.args = [['-', 'c']] then text.length else (text.filter (· = '\n')).length
  eachFile c none [['-']] id (fun text => Octets.line (Octets.ofNat (count text))) m

/-- Prints a line over and over.  That does not end, except that a pipe to another
program takes only so much. -/
def yes : Body := fun c m =>
  let line := Octets.line (if c.args.isEmpty then ['y'] else [' '].intercalate c.args)
  let times := Machine.enough / line.length + 1
  match c.process.descriptors.lookup 1, c.print line m with
  | some (.pipe n), _ =>
    if n = Machine.outputPipe ∨ n = Machine.errorPipe then (0, m.never)
    else
      let (_, m) := c.print (List.replicate times line).flatten m
      (141, { m with endless := n :: m.endless })
  | _, (0, m) => (0, m.never)
  | _, refused => refused

/-- The last name of a path, without an ending. -/
def baseName (path ending : Octets) : Octets :=
  let path' := (path.reverse.dropWhile (· = '/')).reverse
  if path'.isEmpty then (if path.isEmpty then [] else ['/'])
  else
    let name := (path'.reverse.takeWhile (· != '/')).reverse
    if ending.isSuffixOf name && ending.length < name.length then
      name.take (name.length - ending.length)
    else name

/-- Prints the last name of a path. -/
def basename : Body := fun c m =>
  match c.args with
  | [] => c.refuse 1 ("missing operand".toList ++ seeHelp c.caller) m
  | [path] => c.print (Octets.line (baseName path [])) m
  | [path, ending] => c.print (Octets.line (baseName path ending)) m
  | _ :: _ :: extra :: _ =>
    c.refuse 1 ("extra operand ".toList ++ quoted extra ++ seeHelp c.caller) m

/-- Prints the directory of a path. -/
def dirname : Body := fun c m =>
  let parent (path : Octets) : Octets :=
    let trimmed := path.reverse.dropWhile (· = '/')
    let above := trimmed.dropWhile (· != '/')
    let above := (above.dropWhile (· = '/')).reverse
    if !above.isEmpty then above else if path.head? = some '/' then ['/'] else ['.']
  if c.args.isEmpty then c.refuse 1 ("missing operand".toList ++ seeHelp c.caller) m
  else c.print (c.args.flatMap fun a => Octets.line (parent a)) m

/-- Copies the input to the output and to files. -/
def tee : Body := fun c m =>
  let access : Access := if c.args.contains ['-', 'a'] then .append else .write
  let (text, m) := m.readAll c.process 0
  let text := text.toOption.getD []
  (c.args.filter (· != ['-', 'a'])).foldl (fun (status, m) path =>
    match m.openPath c.process path access with
    | .error r => (1, (c.refuse 1 (path ++ ": ".toList ++ reason r) m).2)
    | .ok (channel, m) => (status, (m.write (c.process.withChannel 1 channel) 1 text).2))
    (c.print text m)

/-- Lists files; directories are passed over. -/
def ls : Body := fun c m =>
  (c.args.filter fun a => a.head? != some '-').foldl (fun (status, m) path =>
    match m.resolve c.process path with
    | .ok (_, .directory) => (status, m)
    | .ok _ => (status, (c.print (Octets.line path) m).2)
    | .error r =>
      (2, (c.refuse 2 ("cannot access ".toList ++ quoted path ++ ": ".toList ++ reason r) m).2))
    (0, m)

/-- The programs other than the shell, by their names. -/
def byName? (name : String) : Option Body :=
  match name with
  | "cat" => some cat
  | "head" => some head
  | "tail" => some tail
  | "seq" => some seq
  | "tr" => some tr
  | "wc" => some wc
  | "yes" => some yes
  | "basename" => some basename
  | "dirname" => some dirname
  | "tee" => some tee
  | "ls" => some ls
  | "true" => some fun _ m => (0, m)
  | "false" => some fun _ m => (1, m)
  | _ => none

end Program
end Host
end Remedy
