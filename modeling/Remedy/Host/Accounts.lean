/-
# Accounts

The users that every machine has.  They are listed in a file, one a line, and each
has a home.
-/

import Remedy.Host.Path

namespace Remedy
namespace Host

/-- A user. -/
structure Account where
  name : String
  user : Nat
  group : Nat
  title : String
  home : String
  shell : String

namespace Account

/-- What users have for a shell who do not log in. -/
def noLogin : String := "/usr/sbin/nologin"

/-- The users. -/
def all : List Account :=
  [⟨"root", 0, 0, "root", "/root", "/bin/bash"⟩,
    ⟨"daemon", 1, 1, "daemon", "/usr/sbin", noLogin⟩,
    ⟨"bin", 2, 2, "bin", "/bin", noLogin⟩,
    ⟨"sys", 3, 3, "sys", "/dev", noLogin⟩,
    ⟨"sync", 4, 65534, "sync", "/bin", "/bin/sync"⟩,
    ⟨"games", 5, 60, "games", "/usr/games", noLogin⟩,
    ⟨"man", 6, 12, "man", "/var/cache/man", noLogin⟩,
    ⟨"lp", 7, 7, "lp", "/var/spool/lpd", noLogin⟩,
    ⟨"mail", 8, 8, "mail", "/var/mail", noLogin⟩,
    ⟨"news", 9, 9, "news", "/var/spool/news", noLogin⟩,
    ⟨"uucp", 10, 10, "uucp", "/var/spool/uucp", noLogin⟩,
    ⟨"proxy", 13, 13, "proxy", "/bin", noLogin⟩,
    ⟨"www-data", 33, 33, "www-data", "/var/www", noLogin⟩,
    ⟨"backup", 34, 34, "backup", "/var/backups", noLogin⟩,
    ⟨"list", 38, 38, "Mailing List Manager", "/var/list", noLogin⟩,
    ⟨"irc", 39, 39, "ircd", "/run/ircd", noLogin⟩,
    ⟨"_apt", 42, 65534, "", "/nonexistent", noLogin⟩,
    ⟨"nobody", 65534, 65534, "nobody", "/nonexistent", noLogin⟩]

/-- The home of a user. -/
def home? (name : Octets) : Option Octets :=
  (all.find? fun a => a.name.toList = name).map fun a => a.home.toList

/-- A user's line in the file. -/
def line (a : Account) : String :=
  ":".intercalate [a.name, "x", toString a.user, toString a.group, a.title, a.home, a.shell]

/-- The text of the file. -/
def listing : Octets := all.flatMap fun a => Octets.line a.line.toList

end Account
end Host
end Remedy
