/-
# What is to be copied, and how

The operands of `dd` are names with values.  A number may have a suffix, and may be a
product; a `B` in it says that bytes are counted, not blocks.
-/

import Remedy.Host.Program.Basic
import Remedy.Text.Pieces

namespace Remedy
namespace Host
namespace Program
namespace Copy

/-- What a text is as a number. -/
inductive Numeral where
  | number (n : Nat)
  | invalid
  | tooLarge

/-- The largest number there may be. -/
def maxNumber : Nat := Nat.pow 2 63 - 1

/-- What a suffix multiplies by, and how long it is. -/
def suffix? (cs : Octets) : Option (Nat × Nat) :=
  let powers (k : Nat) (rest : Octets) : Nat × Nat :=
    match rest with
    | 'i' :: 'B' :: _ => (Nat.pow 1024 k, 3)
    | 'B' :: _ | 'D' :: _ => (Nat.pow 1000 k, 2)
    | _ => (Nat.pow 1024 k, 1)
  match cs with
  | 'c' :: _ => some (1, 1)
  | 'w' :: _ => some (2, 1)
  | 'b' :: _ => some (512, 1)
  | 'k' :: rest | 'K' :: rest => some (powers 1 rest)
  | 'M' :: rest => some (powers 2 rest)
  | 'G' :: rest => some (powers 3 rest)
  | 'T' :: rest => some (powers 4 rest)
  | 'P' :: rest => some (powers 5 rest)
  | 'E' :: rest => some (powers 6 rest)
  | 'Z' :: rest => some (powers 7 rest)
  | 'Y' :: rest => some (powers 8 rest)
  | 'R' :: rest => some (powers 9 rest)
  | 'Q' :: rest => some (powers 10 rest)
  | _ => none

/-- The factor that a text begins with, and what follows it. -/
def factor? (cs : Octets) : Option (Nat × Octets) :=
  let body :=
    match cs.dropWhile isBlank with
    | '+' :: rest => rest
    | rest => rest
  let ds := body.takeWhile Char.isDigit
  let scaled (n : Nat) (rest : Octets) : Nat × Octets :=
    match suffix? rest with
    | some (k, length) => (n * k, rest.drop length)
    | none => (n, rest)
  if ds.isEmpty then if (suffix? cs).isSome then some (scaled 1 cs) else none
  else
    let (n, rest) := scaled (Text.digitsValue ds) (body.drop ds.length)
    let read := cs.take (cs.length - rest.length)
    match rest with
    | 'B' :: after => some (n, if read.getLast? = some 'B' then rest else after)
    | _ => some (n, rest)

/-- The warning about a product that is zero because of how it begins. -/
def zeroWarning : Octets :=
  "warning: '0x' is a zero multiplier; use '00x' if that is intended".toList

/-- What a text is as a number, as far as a number of factors goes, and what there is
to warn of. -/
def numberOf : Nat → Octets → Numeral × List Octets
  | 0, _ => (.invalid, [])
  | k + 1, cs =>
    match factor? cs with
    | none => (.invalid, [])
    | some (n, []) => (if maxNumber < n then .tooLarge else .number n, [])
    | some (n, 'x' :: rest) =>
      match numberOf k rest with
      | (.invalid, ws) => (.invalid, ws)
      | (.tooLarge, ws) =>
        if n = 0 then (.number 0, ws ++ if "0x".toList.isPrefixOf cs then [zeroWarning] else [])
        else (.tooLarge, ws)
      | (.number o, ws) =>
        if n * o = 0 then
          (.number 0, ws ++ if "0x".toList.isPrefixOf cs then [zeroWarning] else [])
        else (if maxNumber < n * o then .tooLarge else .number (n * o), ws)
    | some _ => (.invalid, [])

/-- A number of blocks, or of bytes. -/
structure Amount where
  value : Nat
  inBytes : Bool

/-- How much is told at the end. -/
inductive Report where
  | none
  /-- Only the numbers of records. -/
  | records
  | all
  deriving DecidableEq, Repr

/-- What is to be done. -/
structure Order where
  input : Option Octets
  output : Option Octets
  /-- The sizes of blocks: read, written, for both, and converted. -/
  inputSize : Option Nat
  outputSize : Option Nat
  size : Option Nat
  lineSize : Nat
  skip : Option Amount
  seek : Option Amount
  count : Option Amount
  report : Report
  conversions : List String
  inputFlags : List String
  outputFlags : List String
  warnings : List Octets

/-- The order that asks for nothing. -/
def Order.plain : Order :=
  ⟨none, none, none, none, none, 0, none, none, none, .all, [], [], [], []⟩

/-- What is wrong with operands; whether the help is pointed out, and what there was
to warn of before. -/
structure Wrong where
  message : Octets
  seesHelp : Bool
  warnings : List Octets

/-- The conversions there are. -/
def knownConversions : List String := ["ascii", "ebcdic", "ibm", "block", "unblock", "lcase", "ucase",
  "sparse", "swab", "noerror", "nocreat", "excl", "notrunc", "sync", "fdatasync", "fsync"]

/-- The flags there are. -/
def knownFlags : List String := ["append", "direct", "directory", "dsync", "noatime", "nocache",
  "noctty", "nofollow", "nonblock", "sync", "fullblock", "count_bytes", "skip_bytes",
  "seek_bytes"]

/-- The reports there are. -/
def reports : List (String × Report) :=
  [("none", .none), ("noxfer", .records), ("progress", .all)]

/-- The words of a list, if there are no others than the known ones. -/
def wordsOf (known : List String) (complaint : String) (cs : Octets) :
    Except Octets (List String) :=
  let words := (Text.pieces [','] cs).map String.ofList
  match words.find? (!known.contains ·) with
  | some w => .error (complaint.toList ++ ": ".toList ++ quoted w.toList)
  | none => .ok words

/-- What is said of an operand that there is not. -/
def unknown (operand : Octets) : Octets := "unrecognized operand ".toList ++ named operand

/-- Takes an operand in. -/
def Order.add (o : Order) (operand : Octets) : Except Wrong Order :=
  let name := operand.takeWhile (· != '=')
  let value := operand.drop (name.length + 1)
  let helped (message : Octets) : Wrong := ⟨message, true, o.warnings⟩
  let chosen (r : Except Octets (List String)) (f : List String → Order) : Except Wrong Order :=
    match r with
    | .ok ws => .ok (f ws)
    | .error e => .error (helped e)
  let number (least : Nat) (f : Nat → Order) : Except Wrong Order :=
    let (n, ws) := numberOf (value.length + 1) value
    let warnings := o.warnings ++ ws
    let complaint := "invalid number: ".toList ++ named value
    let tooLarge : Except Wrong Order :=
      .error ⟨complaint ++ ": Value too large for defined data type".toList, false, warnings⟩
    match n with
    | .number n =>
      if n < least then .error ⟨complaint, false, warnings⟩
      else .ok { f n with warnings := warnings }
    | .invalid => .error ⟨complaint, false, warnings⟩
    | .tooLarge => tooLarge
  let amount (n : Nat) : Option Amount := some ⟨n, value.contains 'B'⟩
  if name.length = operand.length then .error (helped (unknown operand))
  else
    match String.ofList name with
    | "if" => .ok { o with input := some value }
    | "of" => .ok { o with output := some value }
    | "conv" =>
      chosen (wordsOf knownConversions "invalid conversion" value) fun ws =>
        { o with conversions := o.conversions ++ ws }
    | "iflag" =>
      chosen (wordsOf knownFlags "invalid input flag" value) fun ws =>
        { o with inputFlags := o.inputFlags ++ ws }
    | "oflag" =>
      chosen (wordsOf knownFlags "invalid output flag" value) fun ws =>
        { o with outputFlags := o.outputFlags ++ ws }
    | "status" =>
      chosen (wordsOf (reports.map (·.1)) "invalid status level" value) fun ws =>
        { o with report := ((ws.getLast?).bind fun w => reports.lookup w).getD .all }
    | "ibs" => number 1 fun n => { o with inputSize := some n }
    | "obs" => number 1 fun n => { o with outputSize := some n }
    | "bs" => number 1 fun n => { o with size := some n }
    | "cbs" => number 1 fun n => { o with lineSize := n }
    | "skip" | "iseek" => number 0 fun n => { o with skip := amount n }
    | "seek" | "oseek" => number 0 fun n => { o with seek := amount n }
    | "count" => number 0 fun n => { o with count := amount n }
    | _ => .error (helped (unknown operand))

namespace Order

/-- Whether a conversion is asked for; those that make lines need a size for them. -/
def converts (o : Order) (name : String) : Bool :=
  let isMade : Bool :=
    match name with
    | "block" => o.conversions.any fun c => ["block", "ebcdic", "ibm"].contains c
    | "unblock" => o.conversions.any fun c => ["unblock", "ascii"].contains c
    | _ => o.conversions.contains name
  isMade && (o.lineSize != 0 || !(["block", "unblock"].contains name))

/-- Whether several things are asked for that exclude each other. -/
def excludes (chosen : List String) (names : List String) : Bool :=
  1 < (names.filter chosen.contains).length

/-- What is wrong with the order as a whole. -/
def fault? (o : Order) : Option (Octets × Bool) :=
  if o.outputFlags.contains "fullblock" then
    some ("invalid output flag: 'fullblock'".toList, true)
  else if excludes o.conversions ["ascii", "ebcdic", "ibm"] then
    some ("cannot combine any two of \x7bascii,ebcdic,ibm\x7d".toList, false)
  else if o.converts "block" && o.converts "unblock" then
    some ("cannot combine block and unblock".toList, false)
  else if excludes o.conversions ["lcase", "ucase"] then
    some ("cannot combine lcase and ucase".toList, false)
  else if excludes o.conversions ["excl", "nocreat"] then
    some ("cannot combine excl and nocreat".toList, false)
  else if excludes o.inputFlags ["direct", "nocache"] || excludes o.outputFlags ["direct", "nocache"]
  then some ("cannot combine direct and nocache".toList, false)
  else none

/-- The order that operands make. -/
def ofOperands (operands : List Octets) : Except Wrong Order := do
  let o ← operands.foldlM Order.add .plain
  match o.fault? with
  | some (message, seesHelp) => .error ⟨message, seesHelp, o.warnings⟩
  | none => .ok o

/-- The size of the blocks that are read. -/
def readSize (o : Order) : Nat := (o.size.orElse fun _ => o.inputSize).getD 512

/-- The size of the blocks that are written. -/
def writeSize (o : Order) : Nat := (o.size.orElse fun _ => o.outputSize).getD 512

/-- Whether blocks are written as they are read. -/
def isDirect (o : Order) : Bool :=
  o.size.isSome && !o.conversions.any fun c =>
    ["ascii", "ebcdic", "ibm", "block", "unblock", "lcase", "ucase", "swab"].contains c

/-- An amount as blocks and bytes. -/
def divide (amount : Option Amount) (flagged : Bool) (size : Nat) : Nat × Nat :=
  match amount with
  | none => (0, 0)
  | some a => if a.inBytes || flagged then (a.value / size, a.value % size) else (a.value, 0)

/-- What is passed over of the input. -/
def skipped (o : Order) : Nat × Nat :=
  divide o.skip (o.inputFlags.contains "skip_bytes") o.readSize

/-- What is passed over of the output. -/
def sought (o : Order) : Nat × Nat :=
  divide o.seek (o.outputFlags.contains "seek_bytes") o.writeSize

/-- How many blocks and bytes are copied, if that is limited. -/
def limit? (o : Order) : Option (Nat × Nat) :=
  o.count.map fun a => divide (some a) (o.inputFlags.contains "count_bytes") o.readSize

end Order
end Copy
end Program
end Host
end Remedy
