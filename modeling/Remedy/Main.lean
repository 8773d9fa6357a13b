/-
# The program

Reads its environment, looks at the places on the disk that are named there, and
starts the listener.  All decisions are in `Remedy.Startup`; this module only
looks, prints and makes the log file.
-/

import Remedy.Log.Clock
import Remedy.Startup

namespace Remedy
namespace Main

open Host (FileSystem Location)

/-- The variables in a block of settings, each of which a zero byte ends. -/
def variablesOf : List UInt8 → List UInt8 → Log.Variables
  | _, [] => []
  | entry, b :: rest =>
    if b = 0 then
      let entry := entry.reverse
      let name := entry.takeWhile (· ≠ 0x3D)
      match Text.Utf8.decode? name with
      | some cs => (String.ofList cs, entry.drop (name.length + 1)) :: variablesOf [] rest
      | none => variablesOf [] rest
    else variablesOf (b :: entry) rest

/-- The locations along a path, as far as its names go. -/
def along : Location → List (List UInt8) → List Location
  | l, [] => [l]
  | l, part :: rest =>
    let next : Location :=
      match Text.Utf8.decode? part with
      | none | some ['.'] => l
      | some ['.', '.'] => l.dropLast
      | some cs => l ++ [String.ofList cs]
    l :: along next rest

/-- The path of a location. -/
def absolute (l : Location) : String := "/" ++ "/".intercalate l

/-- What the disk holds at some locations. -/
def observe (current : Location) (ls : List Location) : IO FileSystem := do
  let root ← IO.currentDir
  let mut fs : FileSystem := ⟨.directory [], current⟩
  for l in ls.eraseDups do
    let path := root / absolute l
    if ← path.isDir then
      fs := fs.insert l (.directory (((fs.node? l).map Host.Node.members).getD []))
    else if ← path.pathExists then
      fs := fs.insert l .file
  return fs

/-- What the program is started in. -/
def surroundings : IO Startup.Surroundings := do
  let block ← IO.FS.readBinFile "/proc/self/environ"
  let vars := variablesOf [] block.toList
  let root ← IO.currentDir
  let current := (root.toString.splitOn "/").filter (· ≠ "")
  let paths := vars.map fun v => (⟨v.2⟩ : Host.Path)
  let named := paths.flatMap fun p => along (if p.isAbsolute then [] else current) p.parts
  let here := along [] ((Host.Path.ofText (absolute current)).parts)
  let status ← IO.FS.readFile "/proc/self/stat"
  let started := (← (root / "/proc/self").metadata).modified.sec.toNat
  return {
    environment := vars
    files := ← observe current (here ++ named)
    stamp := ⟨(status.splitOn " ").headD "0", Log.Clock.text started⟩
    refusal := .networkUnreachable }

/-- Makes the log file on the disk. -/
def makeLogFile (setup : Log.Setup) : IO Unit := do
  match setup.location with
  | none => return ()
  | some l => do
    let root ← IO.currentDir
    IO.FS.createDirAll (root / absolute l.dropLast)
    IO.FS.writeFile (root / absolute l) ""

end Main
end Remedy

/-- Starts the listener. -/
def main : IO UInt32 := do
  let s ← Remedy.Main.surroundings
  Remedy.Main.makeLogFile (Remedy.Log.Setup.of s.environment s.files s.stamp).1
  let t := Remedy.Startup.run s
  let output ← IO.getStdout
  let errors ← IO.getStderr
  t.output.forM output.putStrLn
  t.errors.forM errors.putStrLn
  return UInt32.ofNat t.status
