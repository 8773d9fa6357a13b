/-
# What is told about a copy

The numbers of whole and partial records that were read and written, how many bytes
that was, and how fast it went.
-/

import Remedy.Host.Program.Copy.Operands

namespace Remedy
namespace Host
namespace Program
namespace Copy

/-- Records that have been read or written. -/
structure Records where
  whole : Nat
  partials : Nat

namespace Records

/-- No records. -/
def none : Records := ⟨0, 0⟩

/-- One more record, of a size that may be the full one. -/
def add (r : Records) (full size : Nat) : Records :=
  if size < full then { r with partials := r.partials + 1 } else { r with whole := r.whole + 1 }

/-- Bytes as records of a size. -/
def ofSize (full size : Nat) : Records := ⟨size / full, if size % full = 0 then 0 else 1⟩

/-- Records as they are told. -/
def text (r : Records) (way : String) : String :=
  toString r.whole ++ "+" ++ toString r.partials ++ " records " ++ way

end Records

/-- A number in units of powers, with one decimal if it is small, and the power. -/
def scaled (base n : Nat) : String × Nat :=
  let k := if n < base then 0 else ((List.range 10).filter fun k => Nat.pow base k ≤ n).length - 1
  let round (k : Nat) : String × Nat :=
    let tenths := (20 * n + Nat.pow base k) / (2 * Nat.pow base k)
    if k = 0 then (toString n, k)
    else if tenths < 100 then (toString (tenths / 10) ++ "." ++ toString (tenths % 10), k)
    else (toString ((2 * n + Nat.pow base k) / (2 * Nat.pow base k)), k)
  if (round k).1 = toString base then ("1.0", k + 1) else round k

/-- A number of bytes with a decimal unit, and with a binary one. -/
def sized (n : Nat) : (String × Nat) × (String × Nat) :=
  let unit (names : List String) (s : String × Nat) : String × Nat :=
    (s.1 ++ " " ++ names.getD s.2 "", s.2)
  (unit ["B", "kB", "MB", "GB", "TB", "PB", "EB"] (scaled 1000 n),
    unit ["B", "KiB", "MiB", "GiB", "TiB", "PiB", "EiB"] (scaled 1024 n))

/-- The bytes that have been copied, in a time of microseconds. -/
def volume (n micros : Nat) : String :=
  let ((short, power), (binary, binaryPower)) := sized n
  let sizes :=
    if power = 0 then (if n = 1 then "1 byte" else toString n ++ " bytes")
    else if binaryPower = 0 then toString n ++ " bytes (" ++ short ++ ")"
    else toString n ++ " bytes (" ++ short ++ ", " ++ binary ++ ")"
  let rate := n * 1000000 / max micros 1
  let speed := if rate < 1000 then "0.0 kB" else (sized rate).1.1
  let fraction := toString (micros % 1000000)
  sizes ++ " copied, " ++ toString (micros / 1000000) ++ "."
    ++ "".pushn '0' (6 - fraction.length) ++ fraction ++ " s, " ++ speed ++ "/s"

/-- All that is told, line by line. -/
def lines? (r : Report) (read written : Records) (cut bytes micros : Nat) : List Octets :=
  let cuts :=
    if cut = 0 then [] else if cut = 1 then ["1 truncated record"]
    else [toString cut ++ " truncated records"]
  let records := [read.text "in", written.text "out"] ++ cuts
  match r with
  | .none => []
  | .records => records.map String.toList
  | .all => (records ++ [volume bytes micros]).map String.toList

end Copy
end Program
end Host
end Remedy
