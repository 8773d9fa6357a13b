/-
# What names mean

The parts of the shell that say what a command would be, and those that change it:
aliases, and the programs that are remembered.
-/

import Remedy.Host.Shell.Builtin.Basic
import Remedy.Host.Shell.Lookup

namespace Remedy
namespace Host
namespace Shell
namespace Builtin

/-- Writes a complaint that does not say where it comes from. -/
def warn (s : State) (message : Octets) : State :=
  { s with machine := s.machine.complain s.process message }

/-- Shows aliases, or makes them. -/
def aliases : Builtin := fun args s =>
  let s := s.finish 0
  if args.isEmpty then
    s.print ((State.bucketed 39 s.aliases).flatMap fun a => State.aliasLine a.1 a.2)
  else
    args.foldl (fun s a =>
      let name := a.take 1 ++ (a.drop 1).takeWhile (· != '=')
      if name.length < a.length then
        let text := a.drop (name.length + 1)
        { s with
          aliases :=
            if (s.aliases.lookup name).isSome then
              s.aliases.map fun b => if b.1 = name then (name, text) else b
            else s.aliases ++ [(name, text)] }
      else
        match s.aliases.lookup a with
        | some text => s.print (State.aliasLine a text)
        | none => (warn s ("alias: ".toList ++ a ++ " not found".toList)).finish 1) s

/-- Forgets aliases. -/
def unalias : Builtin := fun args s =>
  s.withOptions "a" args fun chosen names =>
    if !chosen.isEmpty then { s.finish 0 with aliases := [] }
    else
      names.foldl (fun s a =>
        if (s.aliases.lookup a).isSome then
          { s with aliases := s.aliases.filter (·.1 != a) }
        else (warn s ("unalias: ".toList ++ a ++ " not found".toList)).finish 1) (s.finish 0)

/-- Says what names mean. -/
def type : Builtin := fun args s =>
  args.foldl (fun s a =>
    let m := s.meaning false a
    (s.print (State.described a m)).finish (if State.isMeant m then s.status else 127)) (s.finish 0)

/-- Says what a name means, in a sentence or in a word. -/
def describe (inSentence bySystem : Bool) (name : Octets) (s : State) : State :=
  let m := s.meaning bySystem name
  (s.print (if inSentence then State.described name m else State.named name m)).finish
    (if State.isMeant m then 0 else 127)

/-- Shows the programs that are remembered, or looks for programs. -/
def hash : Builtin := fun args s =>
  s.withOptions "r" args fun chosen names =>
    let s := s.finish 0
    if !chosen.isEmpty then { s with hashed := [] }
    else if names.isEmpty then
      s.print ((State.bucketed 31 s.hashed).flatMap fun h => Octets.line h.2)
    else
      names.foldl (fun s name =>
        if (s.functions.lookup name).isSome || isBuiltin name || name.contains '/' then s
        else
          let s := { s with hashed := s.hashed.filter (·.1 != name) }
          match s.find false name with
          | .program _ path => s.remember name path
          | .refused r => (s.complain (name ++ ": ".toList ++ whyNotRun r)).finish 1) s

end Builtin
end Shell
end Host
end Remedy
