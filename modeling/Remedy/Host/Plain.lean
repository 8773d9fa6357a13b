/-
# What every machine has

The directories, files, programs and links that are found on any machine, and an
empty directory in which the program stands.  Programs stand in one directory, to
which the older places of programs are links; a process finds what it has open
below its own directory.
-/

import Remedy.Host.FileSystem
import Remedy.Text.Pieces

namespace Remedy
namespace Host
namespace FileSystem

/-- The locations that a table lists, one path after another. -/
def locations (text : String) : List Location :=
  (Text.wordsOf text.toList).map fun w => (Text.pieces ['/'] w).map String.ofList

/-- The directories. -/
def plainDirectories : List Location := locations
  "boot dev/pts dev/shm etc/alternatives etc/apt etc/cron.d etc/cron.daily etc/default etc/dpkg
  etc/init.d etc/kernel etc/ld.so.conf.d etc/logrotate.d etc/opt etc/pam.d etc/profile.d
  etc/rc0.d etc/rc1.d etc/rc2.d etc/rc3.d etc/rc4.d etc/rc5.d etc/rc6.d etc/rcS.d etc/security
  etc/selinux etc/skel etc/systemd etc/terminfo etc/update-motd.d home media mnt opt
  proc/1 proc/acpi proc/bus proc/driver proc/fs proc/irq proc/self/attr proc/self/fd
  proc/self/fdinfo proc/self/map_files proc/self/net proc/self/ns proc/self/task proc/sys/abi
  proc/sys/debug proc/sys/dev proc/sys/fs proc/sys/kernel proc/sys/net proc/sys/user proc/sys/vm
  proc/sysvipc proc/tty root run/lock srv sys/block sys/bus sys/class sys/dev sys/devices
  sys/firmware sys/fs sys/kernel sys/module sys/power tmp usr/bin usr/games usr/include usr/lib
  usr/lib64 usr/libexec usr/local/bin usr/local/etc usr/local/games usr/local/include
  usr/local/lib usr/local/sbin usr/local/share usr/local/src usr/sbin usr/share usr/share/doc
  usr/src var/backups var/cache var/lib var/local var/log var/mail var/opt var/spool var/tmp"

/-- The files. -/
def plainFiles : List Location := locations
  "dev/full dev/null dev/ptmx dev/random dev/tty dev/urandom dev/zero etc/adduser.conf
  etc/bash.bashrc etc/debconf.conf etc/debian_version etc/deluser.conf etc/e2scrub.conf
  etc/environment etc/fstab etc/gai.conf etc/group etc/group- etc/gshadow etc/host.conf
  etc/hostname etc/hosts etc/issue etc/issue.net etc/ld.so.cache etc/ld.so.conf
  etc/libaudit.conf etc/login.defs etc/machine-id etc/mke2fs.conf etc/nsswitch.conf etc/pam.conf
  etc/passwd etc/passwd- etc/profile etc/resolv.conf etc/shadow etc/shadow- etc/shells
  etc/subgid etc/subuid etc/xattr.conf proc/cmdline proc/cpuinfo proc/devices proc/diskstats
  proc/filesystems proc/interrupts proc/kmsg proc/loadavg proc/meminfo proc/modules
  proc/partitions proc/self/cgroup proc/self/cmdline proc/self/comm proc/self/environ
  proc/self/fd/0 proc/self/fd/1 proc/self/fd/2 proc/self/io proc/self/limits proc/self/maps
  proc/self/mem proc/self/mountinfo proc/self/mounts proc/self/smaps proc/self/stat
  proc/self/statm proc/self/status proc/stat proc/swaps proc/uptime proc/version proc/vmstat
  usr/lib/os-release"

/-- The links and where they lead. -/
def plainLinks : List (Location × String) :=
  [(["bin"], "usr/bin"), (["sbin"], "usr/sbin"), (["lib"], "usr/lib"), (["lib64"], "usr/lib64"),
    (["dev", "fd"], "/proc/self/fd"), (["dev", "stdin"], "/proc/self/fd/0"),
    (["dev", "stdout"], "/proc/self/fd/1"), (["dev", "stderr"], "/proc/self/fd/2"),
    (["etc", "mtab"], "/proc/mounts"), (["etc", "os-release"], "../usr/lib/os-release"),
    (["proc", "mounts"], "self/mounts"), (["proc", "net"], "self/net"),
    (["proc", "self", "root"], "/"), (["proc", "self", "exe"], "/usr/bin/dash"),
    (["proc", "thread-self"], "self"), (["var", "lock"], "/run/lock"), (["var", "run"], "/run")]

/-- The programs. -/
def programNames : List String := ["sh", "dash", "echo", "test", "[", "sleep", "dd", "true",
  "false", "cat", "printf", "kill", "pwd", "head", "tail", "seq", "tr", "wc", "env", "yes",
  "basename", "dirname", "tee", "ls"]

/-- Where the program stands. -/
def plainCurrent : Location := ["tmp", ".listener"]

/-- What every machine has. -/
def plain : FileSystem :=
  let bare : FileSystem := ⟨.directory [], plainCurrent⟩
  let fs := (plainDirectories ++ [plainCurrent]).foldl (fun fs l => fs.insert l (.directory [])) bare
  let fs := plainFiles.foldl (fun fs l => fs.insert l .file) fs
  let fs := plainLinks.foldl (fun fs l => fs.insert l.1 (.link (Path.ofText l.2))) fs
  let fs := fs.insert ["proc", "self", "cwd"] .currentLink
  programNames.foldl (fun fs n => fs.insert ["usr", "bin", n] (.program n)) fs

end FileSystem
end Host
end Remedy
