/-
# Reading options one by one

`getopts` takes the next option letter from arguments each time it is called.  It
keeps the index of the argument to be read next, and how far the one before it has
been read.
-/

import Remedy.Host.Path

namespace Remedy
namespace Host
namespace Shell
namespace Getopts

/-- What one call comes to. -/
structure Outcome where
  /-- Whether there are no more options. -/
  isOver : Bool
  letter : Char
  /-- What the option's argument is set to; nothing if it is left alone. -/
  argument : Option (Option Octets)
  complaint : Option Octets
  index : Nat
  offset : Option Nat

/-- What is said of an option that is not there, or that lacks its argument. -/
def complaint (message : String) (c : Char) : Octets := message.toList ++ c :: " option".toList

/-- Whether a letter is an option, and whether it takes an argument. -/
def known? (c : Char) : Octets → Option Bool
  | a :: ':' :: rest => if a = c then some true else known? c rest
  | a :: rest => if a = c then some false else known? c rest
  | [] => none

/-- What is left of the argument that is being read, if anything is. -/
def remainder (index : Nat) (offset : Option Nat) (args : List Octets) : Octets :=
  match offset with
  | some k => if index ≤ 1 then [] else ((args[index - 2]?).getD []).drop k
  | none => []

/-- Reads the next option. -/
def next (options : Octets) (index : Nat) (offset : Option Nat) (args : List Octets) : Outcome :=
  let quiet := options.head? = some ':'
  let read (c : Char) (rest : Octets) (index : Nat) : Outcome :=
    let offset : Option Nat :=
      some (((args[index - 2]?).getD []).length - rest.length)
    match known? c options with
    | none =>
      if quiet then ⟨false, '?', some (some [c]), none, index, offset⟩
      else
        ⟨false, '?', some none, some ("Illegal option -".toList ++ [c]), index, offset⟩
    | some false => ⟨false, c, some (some []), none, index, offset⟩
    | some true =>
      match rest, args[index - 1]? with
      | [], none =>
        if quiet then ⟨false, ':', some (some [c]), none, index, none⟩
        else ⟨false, '?', some none, some (complaint "No arg for -" c), index, none⟩
      | [], some a => ⟨false, c, some (some a), none, index + 1, none⟩
      | rest, _ => ⟨false, c, some (some rest), none, index, none⟩
  match remainder index offset args with
  | c :: rest => read c rest index
  | [] =>
    match args[index - 1]? with
    | some ['-', '-'] => ⟨true, '?', none, none, index + 1, none⟩
    | some ('-' :: c :: rest) => read c rest (index + 1)
    | _ => ⟨true, '?', none, none, index, none⟩

end Getopts
end Shell
end Host
end Remedy
