/-
# Reading scripts

`line?` reads the commands up to the end of a line, which is as much as a shell
reads before it runs anything.  Readers go along the text with a budget of steps,
of which each takes one; `budget` is more than a text can use up.
-/

import Remedy.Host.Shell.Cursor

namespace Remedy
namespace Host
namespace Shell
namespace Reader

/-- More steps than reading a text can take. -/
def budget (cs : Octets) : Nat := 16 * cs.length + 100

/-- Where the parts of a word end. -/
inductive Place where
  | word
  /-- The mark of a document, in which nothing is expanded. -/
  | mark
  | quotes (expands : Bool)
  | braces (quoted : Bool)
  | arithmetic (depth : Nat)
  | document

namespace Place

/-- Whether what stands there is quoted. -/
def isQuoted : Place → Bool
  | word | mark => false
  | braces quoted => quoted
  | _ => true

/-- Whether expansions are read there. -/
def expands : Place → Bool
  | mark => false
  | quotes e => e
  | _ => true

/-- Whether quotes mean something there. -/
def hasQuotes : Place → Bool
  | word | mark | braces _ => true
  | _ => false

/-- Whether the parts end before a text. -/
def isOver : Place → Octets → Bool
  | word, [] | mark, [] => true
  | word, c :: _ | mark, c :: _ => isMeta c
  | quotes _, c :: _ => c = '"'
  | braces _, c :: _ => c = '}'
  | arithmetic 0, ')' :: ')' :: _ => true
  | document, cs => cs.isEmpty
  | _, _ => false

/-- Whether a backslash is nothing but the protection of a character. -/
def protects (p : Place) (c : Char) : Bool :=
  match p with
  | word | mark | braces false => true
  | braces true => c = '$' || c = '`' || c = '"' || c = '\\' || c = '}'
  | document => c = '$' || c = '`' || c = '\\'
  | _ => c = '$' || c = '`' || c = '"' || c = '\\'

/-- The complaint if the text is over before the parts are. -/
def complaint : Place → String
  | braces false => "Missing '\x7d'"
  | arithmetic _ => "Missing '))'"
  | _ => "Unterminated quoted string"

end Place

/-- A part before others, joined to the next one if both are plain text. -/
def join : Part → List Part → List Part
  | .text q cs, .text r ds :: rest =>
    if q = r then .text q (cs ++ ds) :: rest else .text q cs :: .text r ds :: rest
  | p, ps => p :: ps

/-- What stands between quotes, which is there even if it is empty, unless it is
all the arguments. -/
def betweenQuotes : List Part → List Part
  | [.parameter q ['@'] .value] => [.parameter q ['@'] .value]
  | ps => join (.text true []) ps

/-- The text between backquotes: what it is without the backslashes that only
protect it, and its length. -/
def backquoted (quoted : Bool) : Octets → Option (Octets × Nat)
  | [] => none
  | '`' :: _ => some ([], 1)
  | '\\' :: c :: rest =>
    (backquoted quoted rest).map fun (cs, n) =>
      (if c = '\n' then cs
        else if c = '`' || c = '\\' || c = '$' || (quoted && c = '"') then c :: cs
        else '\\' :: c :: cs, n + 2)
  | c :: rest => (backquoted quoted rest).map fun (cs, n) => (c :: cs, n + 1)

/-- Whether a parameter has this character for a name. -/
def isSpecial (c : Char) : Bool := "@*#?-$!".toList.contains c || c.isDigit

/-- The parameter that a text begins with. -/
def parameterName (cs : Octets) : Octets :=
  match cs with
  | c :: _ =>
    if beginsName c then cs.takeWhile isNameChar else if isSpecial c then [c] else []
  | [] => []

/-- What is asked about the parameter between braces that a text begins with: its
name, whether it is its length, and what follows the name. -/
def bracedName (cs : Octets) : Option (Octets × Bool × Octets) :=
  let named (length : Bool) (cs : Octets) : Option (Octets × Bool × Octets) :=
    match cs with
    | c :: rest =>
      if beginsName c then
        some (cs.takeWhile isNameChar, length, cs.dropWhile isNameChar)
      else if c.isDigit then some (cs.takeWhile Char.isDigit, length, cs.dropWhile Char.isDigit)
      else if isSpecial c then some ([c], length, rest)
      else none
    | [] => none
  match cs with
  | '#' :: c :: rest =>
    if isNameChar c then named true (c :: rest)
    else
      match rest with
      | '}' :: _ => if isSpecial c && c != '}' then some ([c], true, rest) else named false cs
      | _ => named false cs
  | cs => named false cs

/-- The name that a word assigns to, if it is an assignment. -/
def assigned? : Word → Option (Octets × Word)
  | .text false cs :: rest =>
    let name := cs.takeWhile isNameChar
    match cs.drop name.length with
    | '=' :: value =>
      if name.head?.any beginsName then
        some (name, if value.isEmpty then rest else .text false value :: rest)
      else none
    | _ => none
  | _ => none

/-- The redirection that a text begins with: its arrow, the descriptor it is about
unless another one is named, and its length. -/
def arrow? : Octets → Option (Arrow × Nat × Nat)
  | '<' :: '<' :: '-' :: _ => some (.document true, 0, 3)
  | '<' :: '<' :: _ => some (.document false, 0, 2)
  | '<' :: '&' :: _ => some (.to .duplicate, 0, 2)
  | '<' :: '>' :: _ => some (.to .update, 0, 2)
  | '<' :: _ => some (.to .read, 0, 1)
  | '>' :: '&' :: _ => some (.to .duplicate, 1, 2)
  | '>' :: '>' :: _ => some (.to .append, 1, 2)
  | '>' :: '|' :: _ => some (.to .overwrite, 1, 2)
  | '>' :: _ => some (.to .write, 1, 1)
  | _ => none

/-- The operator that a text begins with. -/
def operator? : Octets → Option String
  | '&' :: '&' :: _ => some "&&"
  | '|' :: '|' :: _ => some "||"
  | ';' :: ';' :: _ => some ";;"
  | c :: _ => if "&|;()".toList.contains c then some (String.singleton c) else none
  | [] => none

/-- The names of commands that no function may have. -/
def specials : List String := [":", ".", "break", "continue", "eval", "exec", "exit", "export",
  "local", "readonly", "return", "set", "shift", "times", "trap", "unset"]

/-- The text of a word in which nothing is expanded. -/
def plainText (w : Word) : Octets :=
  w.flatMap fun p =>
    match p with
    | .text _ cs => cs
    | _ => []

mutual

/-- Reads the parts of a word up to their end. -/
def parts : Nat → Place → Reader (List Part)
  | 0, _ => fail "too long"
  | n + 1, place => do
    let cs ← rest
    if place.isOver cs then return []
    let literal (length : Nat) (p : Part) : Reader (List Part) := do
      skip length
      return join p (← parts n place)
    match cs with
    | [] => misread place.complaint
    | '\\' :: '\n' :: _ => do
      skip 2
      parts n place
    | ['\\'] => literal 1 (.text true ['\\'])
    | '\\' :: c :: _ => literal 2 (.text true (if place.protects c then [c] else ['\\', c]))
    | '\'' :: r => do
      if place.isQuoted || !place.hasQuotes then literal 1 (.text place.isQuoted ['\''])
      else
        let inner := r.takeWhile (· != '\'')
        if inner.length = r.length then
          skip cs.length
          misread (Place.quotes true).complaint
        else literal (inner.length + 2) (.text true inner)
    | '"' :: _ => do
      if !place.hasQuotes then literal 1 (.text true ['"'])
      else
        skip 1
        let inner ← parts n (.quotes place.expands)
        skip 1
        return (betweenQuotes inner).foldr join (← parts n place)
    | '$' :: _ => do
      if !place.expands then literal 1 (.text place.isQuoted ['$'])
      else
        skip 1
        let p ← dollar n place.isQuoted
        return join p (← parts n place)
    | '`' :: r => do
      if !place.expands then literal 1 (.text place.isQuoted ['`'])
      else
        match backquoted place.isQuoted r with
        | none => misread "EOF in backquote substitution"
        | some (inner, length) => do
          skip (length + 1)
          let here ← get
          set { here with rest := inner, line := 1, active := [], requests := [] }
          let body ← commands n true
          modify fun c => { here with count := c.count, found := c.found }
          return join (.command place.isQuoted body) (← parts n place)
    | c :: _ => do
      skip 1
      let place : Place :=
        match place, c with
        | .arithmetic d, '(' => .arithmetic (d + 1)
        | .arithmetic d, ')' => .arithmetic (d - 1)
        | p, _ => p
      return join (.text place.isQuoted [c]) (← parts n place)

/-- Reads what follows a dollar sign. -/
def dollar : Nat → Bool → Reader Part
  | 0, _ => fail "too long"
  | n + 1, quoted => do
    let cs ← rest
    match cs with
    | '(' :: '(' :: _ => do
      skip 2
      let body ← parts n (.arithmetic 0)
      skip 2
      return .arithmetic quoted body
    | '(' :: _ => do
      skip 1
      let requests := (← get).requests
      modify fun c => { c with requests := [] }
      let body ← commands n true
      let t ← token n .nothing
      if !t.isOperator ")" then unexpected t (some "\")\"")
      modify fun c => { c with requests := requests }
      return .command quoted body
    | '{' :: _ => do
      skip 1
      braced n quoted
    | _ => do
      let name := parameterName cs
      if name.isEmpty then return .text quoted ['$']
      skip name.length
      return .parameter quoted name .value

/-- Reads what follows the opening brace of a parameter. -/
def braced : Nat → Bool → Reader Part
  | 0, _ => fail "too long"
  | n + 1, quoted => do
    let cs ← rest
    let within (length : Nat) (quotedWord : Bool) : Reader Word := do
      skip length
      let w ← parts n (.braces quotedWord)
      skip 1
      return w
    let wrong : Reader Part := do
      let _ ← within 0 quoted
      return .parameter quoted [] .wrong
    match bracedName cs with
    | none => wrong
    | some (name, true, after) => do
      match after with
      | '}' :: _ => do
        skip (name.length + 2)
        return .parameter quoted name .length
      | _ => wrong
    | some (name, false, after) => do
      skip name.length
      let fallback (kind : Fallback) (evenIfEmpty : Bool) (length : Nat) : Reader Part := do
        return .parameter quoted name (.fallback kind evenIfEmpty (← within length quoted))
      let trim (atEnd longest : Bool) (length : Nat) : Reader Part := do
        return .parameter quoted name (.trim atEnd longest (← within length false))
      match after with
      | '}' :: _ => do
        skip 1
        return .parameter quoted name .value
      | ':' :: '-' :: _ => fallback .use true 2
      | ':' :: '=' :: _ => fallback .assign true 2
      | ':' :: '?' :: _ => fallback .complain true 2
      | ':' :: '+' :: _ => fallback .instead true 2
      | '-' :: _ => fallback .use false 1
      | '=' :: _ => fallback .assign false 1
      | '?' :: _ => fallback .complain false 1
      | '+' :: _ => fallback .instead false 1
      | '%' :: '%' :: _ => trim true true 2
      | '%' :: _ => trim true false 1
      | '#' :: '#' :: _ => trim false true 2
      | '#' :: _ => trim false false 1
      | _ => wrong

/-- Reads a token from the text, a word up to some place; and says whether it may
be an alias because of the alias before it. -/
def scan : Nat → Place → Reader (Token × Bool)
  | 0, _ => fail "too long"
  | n + 1, place => do
    blanks
    let opens ← leaveAliases
    let cs ← rest
    let redirect? : Option (Token × Nat) :=
      match cs with
      | c :: after =>
        if c.isDigit then
          (arrow? after).map fun (a, _, length) => (.redirection (c.toNat - 48) a, length + 1)
        else (arrow? cs).map fun (a, d, length) => (.redirection d a, length)
      | [] => none
    match cs, redirect?, operator? cs with
    | [], _, _ => return (.ended, opens)
    | '\n' :: _, _, _ => do
      skip 1
      documents
      return (.newline, opens)
    | _, some (t, length), _ => do
      skip length
      return (t, opens)
    | _, none, some o => do
      skip o.length
      return (.operator o, opens)
    | _, none, none => return (.word (← parts n place), opens)

/-- Takes the next token. -/
def token : Nat → Check → Reader Token
  | 0, _ => fail "too long"
  | n + 1, check => do
    let c ← get
    let (t, opens) ←
      match c.ahead with
      | some t => do
        set { c with ahead := none }
        pure (t, false)
      | none => scan n .word
    match t with
    | .newline => if check.newlines then token n check else return t
    | .word [.text false cs] => do
      if check.keywords && reserved.contains (String.ofList cs) then
        return .keyword (String.ofList cs)
      if check.aliases || opens then
        if ← replace? cs then token n { check with aliases := true } else return t
      else return t
    | t => return t

/-- Takes a token that has to be an operator or a keyword. -/
def expect : Nat → Check → String → Reader Unit
  | 0, _, _ => fail "too long"
  | n + 1, check, wanted => do
    let t ← token n check
    if t.isKeyword wanted || t.isOperator wanted then return ()
    else unexpected t (some ("\"" ++ wanted ++ "\""))

/-- Reads what stands behind an arrow. -/
def redirection : Nat → Nat → Arrow → Reader Redirection
  | 0, _, _ => fail "too long"
  | n + 1, descriptor, .to d => do
    match (← scan n .word).1 with
    | .word w => return .of descriptor d w
    | t => unexpected t none
  | n + 1, descriptor, .document strips => do
    match (← scan n .mark).1 with
    | .word w => do
      let c ← get
      let isPlain := w.any fun p =>
        match p with
        | .text quoted _ => quoted
        | _ => false
      let request : Request := ⟨c.count, plainText w, isPlain, strips⟩
      modify fun c => { c with requests := c.requests ++ [request], count := c.count + 1 }
      match c.known.lookup c.count with
      | none => return .document descriptor []
      | some text => do
        if isPlain then return .document descriptor [.text true text]
        let here ← get
        set { here with rest := text, active := [] }
        let body ← parts n .document
        set here
        return .document descriptor body
    | t => unexpected t none

/-- Reads the redirections that come next. -/
def redirections : Nat → Reader (List Redirection)
  | 0 => fail "too long"
  | n + 1 => do
    match ← token n .sameLine with
    | .redirection d a => do
      let r ← redirection n d a
      return r :: (← redirections n)
    | t => do
      back t
      return []

/-- Reads the words, assignments and redirections of a simple command; until there
is a word, words may be assignments and aliases. -/
def simple : Nat → Nat → List (Octets × Word) → List Word → List Redirection → Reader Command
  | 0, _, _, _, _ => fail "too long"
  | n + 1, line, assignments, words, rs => do
    match ← token n (.words words.isEmpty) with
    | .word w => do
      match words, assigned? w with
      | [], some a => simple n line (assignments ++ [a]) words rs
      | _, _ => simple n line assignments (words ++ [w]) rs
    | .redirection d a => do
      let r ← redirection n d a
      simple n line assignments words (rs ++ [r])
    | .operator "(" => do
      match assignments, words, rs with
      | [], [w], [] => do
        expect n .nothing ")"
        match w with
        | [.text false name] => do
          if !isName name || specials.contains (String.ofList name) then
            misread "Bad function name"
          return .define name (← command n .command)
        | _ => misread "Bad function name"
      | _, _, _ => do
        back (.operator "(")
        return .simple line assignments words rs
    | t => do
      back t
      return .simple line assignments words rs

/-- Reads one command. -/
def command : Nat → Check → Reader Command
  | 0, _ => fail "too long"
  | n + 1, check => do
    let t ← token n check
    let line := (← get).line
    let finished (c : Command) (wanted : String) : Reader Command := do
      expect n .nothing wanted
      match ← redirections n with
      | [] => return c
      | rs => return .redirected line c rs
    match t with
    | .keyword "if" => do finished (← conditional n) "fi"
    | .keyword "while" => do
      let condition ← commands n false
      expect n .nothing "do"
      finished (.loop true condition (← commands n false)) "done"
    | .keyword "until" => do
      let condition ← commands n false
      expect n .nothing "do"
      finished (.loop false condition (← commands n false)) "done"
    | .keyword "for" => do
      let name ←
        match ← token n .nothing with
        | .word [.text false name] => do
          if !isName name then misread "Bad for loop variable"
          pure name
        | _ => misread "Bad for loop variable"
      let t ← token n .command
      let words ←
        if t.isKeyword "in" then do
          let ws ← wordList n
          let t ← token n .nothing
          match t with
          | .newline | .operator ";" => pure ()
          | t => unexpected t none
          pure (some ws)
        else do
          if !t.isOperator ";" then back t
          pure none
      expect n .command "do"
      finished (.each line name words (← commands n false)) "done"
    | .keyword "case" => do
      let subject ←
        match ← token n .nothing with
        | .word w => pure w
        | t => unexpected t (some "word")
      expect n .command "in"
      let arms ← caseArms n
      match ← redirections n with
      | [] => return .select line subject arms
      | rs => return .redirected line (.select line subject arms) rs
    | .operator "(" => do finished (.subshell line (← commands n false)) ")"
    | .keyword "\x7b" => do finished (← commands n false) "\x7d"
    | .word _ | .redirection _ _ => do
      back t
      simple n line [] [] []
    | t => unexpected t none

/-- Reads a condition and what depends on it. -/
def conditional : Nat → Reader Command
  | 0 => fail "too long"
  | n + 1 => do
    let condition ← commands n false
    expect n .nothing "then"
    let yes ← commands n false
    let t ← token n .nothing
    if t.isKeyword "elif" then return .branch condition yes (← conditional n)
    else if t.isKeyword "else" then return .branch condition yes (← commands n false)
    else
      back t
      return .branch condition yes .nothing

/-- Reads the words that come next. -/
def wordList : Nat → Reader (List Word)
  | 0 => fail "too long"
  | n + 1 => do
    match ← token n .nothing with
    | .word w => return w :: (← wordList n)
    | t => do
      back t
      return []

/-- Reads the patterns of an arm, the first of which is in a token. -/
def patterns : Nat → Token → Reader (List Word)
  | 0, _ => fail "too long"
  | n + 1, t => do
    let w : Word :=
      match t with
      | .word w => w
      | .keyword k => [.text false k.toList]
      | _ => []
    let t ← token n .nothing
    if t.isOperator "|" then
      let next ← token n .nothing
      return w :: (← patterns n next)
    else if t.isOperator ")" then return [w]
    else unexpected t (some "\")\"")

/-- Reads the arms of a selection, and its end. -/
def caseArms : Nat → Reader (List (List Word × Command))
  | 0 => fail "too long"
  | n + 1 => do
    let t ← token n .arm
    if t.isKeyword "esac" then return []
    let first ← if t.isOperator "(" then token n .nothing else pure t
    let ps ← patterns n first
    let body ← commands n true
    let t ← token n .arm
    if t.isKeyword "esac" then return [(ps, body)]
    else if t.isOperator ";;" then return (ps, body) :: (← caseArms n)
    else unexpected t (some "\";;\"")

/-- Reads commands joined by pipes. -/
def pipeline : Nat → Check → Reader Command
  | 0, _ => fail "too long"
  | n + 1, check => do
    let t ← token n check
    let negates := t.isKeyword "!"
    if !negates then back t
    let first ← command n (if negates then .sameLine else .nothing)
    let more ← piped n
    let c := if more.isEmpty then first else .pipeline (first :: more)
    return if negates then .negation c else c

/-- Reads the commands that further pipes lead to. -/
def piped : Nat → Reader (List Command)
  | 0 => fail "too long"
  | n + 1 => do
    let t ← token n .nothing
    if t.isOperator "|" then
      let c ← command n .command
      return c :: (← piped n)
    else
      back t
      return []

/-- Reads pipelines joined by conditions, the first of which has been read. -/
def conditions : Nat → Command → Reader Command
  | 0, _ => fail "too long"
  | n + 1, first => do
    let t ← token n .nothing
    if t.isOperator "&&" then conditions n (.both first (← pipeline n .command))
    else if t.isOperator "||" then conditions n (.either first (← pipeline n .command))
    else
      back t
      return first

/-- Reads commands over lines, up to something that closes them; without one, it is
an error if there are none. -/
def commands : Nat → Bool → Reader Command
  | 0, _ => fail "too long"
  | n + 1, mayBeEmpty => do
    match ← sequence n false mayBeEmpty with
    | [] => return .nothing
    | [c] => return c
    | cs => return .sequence cs

/-- Reads commands up to the end of a line, or over lines up to something that
closes them; whether that may come now depends. -/
def sequence : Nat → Bool → Bool → Reader (List Command)
  | 0, _, _ => fail "too long"
  | n + 1, inLine, mayClose => do
    let t ← token n (if inLine then .sameLine else .command)
    match t with
    | .newline => return []
    | .ended => do
      back t
      return []
    | t => do
      back t
      if mayClose && !inLine && t.closes then return []
      let c ← conditions n (← pipeline n .nothing)
      let t ← token n .nothing
      match t with
      | .newline | .ended => do
        back t
        return c :: (← sequence n inLine true)
      | .operator ";" => return c :: (← sequence n inLine true)
      | .operator "&" => return .background c :: (← sequence n inLine true)
      | t => do
        if inLine then unexpected t none
        back t
        return [c]

end

/-- A text in which expansions are read as in a document. -/
def document? (cs : Octets) : Option Word :=
  match (parts (budget cs) .document).run (.start cs) with
  | .ok (w, _) => some w
  | .error _ => none

/-- The commands up to the end of a line, if the text is not over, and where they
end.  If documents belong to the line, it is read again when they are known. -/
def line? (n : Nat) (c : Cursor) : Except Malformed (Option Command × Cursor) := do
  let c := { c with count := 0, found := [], known := [] }
  let once (c : Cursor) : Except Malformed (List Command × Cursor) := (sequence n true false).run c
  let (_, after) ← once c
  let (cs, after) ← once { c with known := after.found }
  match cs, after.ahead with
  | [], some .ended => return (none, after)
  | cs, _ => return (some (.sequence cs), after)

end Reader
end Shell
end Host
end Remedy
