/-
# Letters, digits and case

The classes of characters that do not depend on a query: what is a letter or a
number, what has case, and what a word goes on across.  They follow version 17 of
the character set, one version after the tables that a query reads, so each is a
table of a query together with what that version added.
-/

import Remedy.Character.Category
import Remedy.Character.Property

namespace Remedy
namespace Character

/-- The letters that version 17 added. -/
def addedLetters : Ranges := Ranges.ofText
  "88F C5C CDC A7CE-A7CF A7D2 A7D4 A7F1 10940-10959 10EC5-10EC7 10EFA-10EFB 11B60-11B67
  11DB0-11DDB 16EA0-16EB8 16EBB-16ED3 16FF2-16FF6 187F8-187FF 18D09-18D1E 18D80-18DF2
  1E6C0-1E6DE 1E6E0-1E6F5 1E6FE-1E6FF 2B73A-2B73F 2CEA2-2CEAD 323B0-33479"

/-- The numbers that version 17 added. -/
def addedNumbers : Ranges := Ranges.ofText "11DE0-11DE9 16FF4-16FF6"

/-- The characters with case that version 17 added. -/
def addedCased : Ranges := Ranges.ofText "A7CE-A7CF A7D2 A7D4 A7F1 16EA0-16EB8 16EBB-16ED3"

/-- The characters that version 17 added and that a word goes on across. -/
def addedCaseIgnorable : Ranges := Ranges.ofText
  "1ACF-1ADD 1AE0-1AEB A7F1 10EC5 10EFA-10EFB 11B60 11B62-11B64 11B66 11DD9 16FF2-16FF3 1E6E3
  1E6E6 1E6EE-1E6EF 1E6F5 1E6FF"

/-- Letters, in any script. -/
def alphabetic : Ranges := Ranges.union ((property? "alphabetic").getD []) addedLetters

/-- Digits and other numbers, in any script. -/
def numeric : Ranges := Ranges.union ((category? "number").getD []) addedNumbers

/-- Letters that have case.  The pharyngeal fricative lost its case in version
17. -/
def cased : Ranges :=
  Ranges.union (Ranges.diff ((property? "cased").getD []) [(0x295, 0x295)]) addedCased

/-- Characters that a word goes on across: marks, modifiers, apostrophes. -/
def caseIgnorable : Ranges :=
  Ranges.union ((property? "caseignorable").getD []) addedCaseIgnorable

end Character
end Remedy
