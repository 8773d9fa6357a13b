/-
# Names that patterns match

A word that is a pattern stands for the paths that it matches, in order.  It is
matched name by name; a name that begins with a dot is matched only by a pattern
that begins with one.
-/

import Remedy.Host.Opening
import Remedy.Host.Shell.Wildcard

namespace Remedy
namespace Host
namespace Shell
namespace Wildcard

/-- The names in a directory; none if a path leads to anything else. -/
def namesIn (m : Machine) (p : Process) (path : Octets) : List Octets :=
  match m.resolve p (if path.isEmpty then ['.'] else path) with
  | .ok (l, .directory) =>
    [['.'], ['.', '.']] ++ (((m.filesOf p).node? l).map Node.members |>.getD []).map fun e =>
      Octets.ofText e.1
  | _ => []

/-- Whether there is anything at a path. -/
def isThere (m : Machine) (p : Process) (path : Octets) : Bool :=
  (m.resolve p path).toOption.isSome || m.isLink p path

/-- The paths that a pattern matches behind a path, as far as a number of names
goes. -/
def pathsFrom (m : Machine) (p : Process) : Nat → Octets → Pattern → List Octets
  | 0, _, _ => []
  | n + 1, path, pattern =>
    if !isWild pattern then
      let path := path ++ text pattern
      if isThere m p path then [path] else []
    else
      let name := pattern.takeWhile (·.1 != '/')
      let rest := pattern.drop name.length
      if !isWild name then pathsFrom m p n (path ++ text name ++ text (rest.take 1)) (rest.drop 1)
      else
        let isDotted := name.head?.any (·.1 = '.')
        let found := (namesIn m p path).filter fun x =>
          (isDotted || x.head? != some '.') && fits name x
        match rest with
        | [] => found.map (path ++ ·)
        | _ :: rest => found.flatMap fun x => pathsFrom m p n (path ++ x ++ ['/']) rest

/-- The paths that a pattern matches, in order. -/
def paths (m : Machine) (p : Process) (pattern : Pattern) : List Octets :=
  if isWild pattern then
    (pathsFrom m p (pattern.length + 1) [] pattern).mergeSort fun a b => !decide (b < a)
  else []

end Wildcard
end Shell
end Host
end Remedy
