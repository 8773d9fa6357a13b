/-
# Words and pieces of a text

White space outside ASCII counts: `isBlank` is the white-space property of the
character set.  `trim` removes blanks at both ends of a text, and `words` cuts
it at its blanks, so that no word is empty and none holds a blank.

`pieces` cuts a text at the occurrences of a mark, found from left to right so
that no two overlap; joined by the mark the pieces are the text again.
`substitute` joins them by something else, which is never searched for the mark.
-/

namespace Remedy
namespace Text

/-- White space. -/
def isBlank (c : Char) : Bool :=
  let n := c.toNat
  (9 ≤ n && n ≤ 13) || n == 0x20 || n == 0x85 || n == 0xA0 || n == 0x1680
    || (0x2000 ≤ n && n ≤ 0x200A) || n == 0x2028 || n == 0x2029 || n == 0x202F
    || n == 0x205F || n == 0x3000

/-- A text without the blanks it begins with. -/
def trimStart (cs : List Char) : List Char := cs.dropWhile isBlank

/-- A text without the blanks it ends with. -/
def trimEnd (cs : List Char) : List Char := (cs.reverse.dropWhile isBlank).reverse

/-- A text without blanks at its ends. -/
def trim (s : String) : String := String.ofList (trimEnd (trimStart s.toList))

/-- Whether there is nothing but blanks. -/
def isAllBlank (s : String) : Bool := s.toList.all isBlank

/-- Whether no word goes on here. -/
def endsWord : List Char → Bool
  | [] => true
  | c :: _ => isBlank c

/-- Puts a character before the first word. -/
def lengthen (c : Char) : List (List Char) → List (List Char)
  | [] => [[c]]
  | w :: ws => (c :: w) :: ws

/-- The maximal pieces without a blank, in order. -/
def wordsOf : List Char → List (List Char)
  | [] => []
  | c :: rest =>
    if isBlank c then wordsOf rest
    else if endsWord rest then [c] :: wordsOf rest
    else lengthen c (wordsOf rest)

/-- The words of a text. -/
def words (s : String) : List String := (wordsOf s.toList).map String.ofList

/-- Whether a mark occurs in a text. -/
def occurs (mark : List Char) : List Char → Bool
  | [] => mark.isEmpty
  | c :: rest => mark.isPrefixOf (c :: rest) || occurs mark rest

/-- The pieces of a text of which the first `passed` characters belong to a mark
already found. -/
def piecesFrom (mark : List Char) : Nat → List Char → List (List Char)
  | _, [] => [[]]
  | passed + 1, _ :: rest => piecesFrom mark passed rest
  | 0, c :: rest =>
    if mark.isPrefixOf (c :: rest) then [] :: piecesFrom mark (mark.length - 1) rest
    else lengthen c (piecesFrom mark 0 rest)

/-- The pieces of a text between the occurrences of a non-empty mark. -/
def pieces (mark : List Char) (cs : List Char) : List (List Char) := piecesFrom mark 0 cs

/-- A text with `value` for each occurrence of the mark. -/
def substitute (mark value cs : List Char) : List Char := value.intercalate (pieces mark cs)

/-- A text with `value` for each occurrence of the mark. -/
def replace (mark value s : String) : String :=
  String.ofList (substitute mark.toList value.toList s.toList)

/-- The pieces of a text between the occurrences of a character. -/
def splitAt (mark : Char) (s : String) : List String :=
  (pieces [mark] s.toList).map String.ofList

end Text
end Remedy
