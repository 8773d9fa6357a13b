/-
# Sections of the environment

A section consists of the variables whose names begin with its name and an
underscore, in any case.  An empty variable counts as none.  In a section that
is *parsed* a text that looks like a truth value or a number becomes one, and
the settings that hold lists are split at commas.
-/

import Remedy.Settings.Path
import Remedy.Text.Pieces

namespace Remedy
namespace Settings

/-- Names and texts, as an environment holds them. -/
abbrev Variables := List (String × String)

/-- How the variables of a section are read. -/
structure Section where
  name : String
  parsed : Bool
  /-- The settings that hold lists. -/
  lists : List String

namespace Section

/-- What the names of all variables of the section begin with. -/
def start (s : Section) : String := Character.lowercase s.name ++ "_"

/-- The setting that a variable is for. -/
def setting? (s : Section) (name : String) : Option String :=
  let name := (Character.lowercase name).toList
  let start := s.start.toList
  if start.isPrefixOf name then some (String.ofList (name.drop start.length)) else none

/-- The truth value that a text spells. -/
def bool? (text : String) : Option Bool :=
  match Character.lowercase text with
  | "true" => some true
  | "false" => some false
  | _ => none

/-- The value of a text in a parsed section. -/
def parse (s : Section) (setting text : String) : Value :=
  match bool? text with
  | some b => .bool b
  | none =>
    match Text.signed? text.toList with
    | some n => .int n
    | none =>
      match Binary64.read? text.toList with
      | some x => .float x
      | none =>
        if s.lists.contains setting then .list true ((Text.splitAt ',' text).map .text)
        else .text text

/-- The value of a text. -/
def value (s : Section) (setting text : String) : Value :=
  if s.parsed then s.parse setting text else .text text

/-- Settings with one variable more. -/
def add (s : Section) (settings : Value) (v : String × String) : Value :=
  if v.2 = "" then settings
  else
    match s.setting? v.1 with
    | some setting => settings.putAt (Path.ofName setting) (s.value setting v.2)
    | none => settings

/-- The settings of a section. -/
def collect (s : Section) (vars : Variables) : Value := vars.foldl s.add (.table [])

end Section
end Settings
end Remedy
