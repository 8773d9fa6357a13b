/-
# The parts of the shell by name

Those that run other commands are not among them.
-/

import Remedy.Host.Shell.Builtin.Directory
import Remedy.Host.Shell.Builtin.Flow
import Remedy.Host.Shell.Builtin.Input
import Remedy.Host.Shell.Builtin.Names
import Remedy.Host.Shell.Builtin.Output
import Remedy.Host.Shell.Builtin.Permission
import Remedy.Host.Shell.Builtin.Signals
import Remedy.Host.Shell.Builtin.Variables

namespace Remedy
namespace Host
namespace Shell

/-- What a part of the shell does. -/
def builtin? (name : String) : Option Builtin :=
  match name with
  | ":" | "true" => some (Builtin.always 0)
  | "false" => some (Builtin.always 1)
  | "[" => some (Builtin.test true)
  | "alias" => some Builtin.aliases
  | "bg" | "fg" => some Builtin.move
  | "break" => some (Builtin.leaveLoops .leaveLoops)
  | "cd" | "chdir" => some Builtin.cd
  | "continue" => some (Builtin.leaveLoops .nextRound)
  | "echo" => some Builtin.echo
  | "exit" => some Builtin.exit
  | "export" => some Builtin.exportAll
  | "getopts" => some Builtin.getopts
  | "hash" => some Builtin.hash
  | "jobs" => some Builtin.jobs
  | "kill" => some Builtin.kill
  | "local" => some Builtin.localise
  | "printf" => some Builtin.printf
  | "pwd" => some Builtin.pwd
  | "read" => some Builtin.read
  | "readonly" => some Builtin.readonly
  | "return" => some Builtin.leave
  | "set" => some Builtin.set
  | "shift" => some Builtin.shift
  | "test" => some (Builtin.test false)
  | "times" => some Builtin.times
  | "trap" => some Builtin.trap
  | "type" => some Builtin.type
  | "ulimit" => some Builtin.ulimit
  | "umask" => some Builtin.umask
  | "unalias" => some Builtin.unalias
  | "unset" => some Builtin.unset
  | "wait" => some Builtin.wait
  | _ => none

end Shell
end Host
end Remedy
