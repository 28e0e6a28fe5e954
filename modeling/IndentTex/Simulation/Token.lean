import IndentTex.Simulation.Script

/-!
# Tokens of scripts

A script is split into words, operators and line ends while it is read. The documents that a line
announces follow it, and they are kept by number.
-/

namespace IndentTex.Simulation

/-- A token of a script. -/
inductive Token where
  | word (w : Word)
  | operator (name : Text)
  | newline
  /-- The number of a stream before a redirection. -/
  | stream (n : Nat)
  /-- The end of the script. -/
  | ending

/-- A document that has been announced. -/
structure Announced where
  number : Nat
  /-- The line that ends it. -/
  delimiter : Text
  /-- Whether nothing in it is expanded. -/
  literal : Bool
  /-- Whether tabs at the beginnings of lines are dropped. -/
  dropTabs : Bool

/-- What a script has been read to. -/
structure Reader where
  rest : Text
  /-- A token that has been looked at, but not taken. -/
  ahead : Option Token
  announced : List Announced
  documents : List (Nat × Word)
  /-- The number of the next document. -/
  next : Nat

/-- Steps of reading a script. There is no result if it is malformed. -/
abbrev Parse := StateT Reader Option

namespace Parse

/-- Sets what is left to read. -/
def goto (rest : Text) : Parse Unit := modify fun r => { r with rest := rest }

/-- Reads another text, and then goes on where it was. -/
def within {α : Type} (t : Text) (p : Parse α) : Parse α := do
  let outer ← get
  set { outer with rest := t, ahead := none, announced := [] }
  let a ← p
  modify fun r => { outer with documents := r.documents, next := r.next }
  return a

end Parse

/-- The word that a token is, if it has neither quotes nor expansions. -/
def Token.bare? : Token → Option Text
  | .word w => w.bare?
  | _ => none

/-- Whether a token is the given operator. -/
def Token.isOperator (name : String) : Token → Bool
  | .operator o => o == name.toList
  | _ => false

/-- Whether a token is the given word. -/
def Token.isWord (name : String) (t : Token) : Bool := t.bare? == some name.toList

/-- The characters that end a word. -/
def endsWord (c : Char) : Bool := " \t\n;&|<>()".toList.contains c

/-- The operators, longer ones before their beginnings. -/
def operators : List Text :=
  ["<<-", "&&", "||", ";;", ">>", "<<", "<&", ">&", ">|", "<>", ";", "&", "|", "<", ">", "(",
    ")"].map String.toList

/-- The operator at the beginning of a text, and what follows it. -/
def operator? (t : Text) : Option (Text × Text) :=
  operators.findSome? fun o => (Text.dropStart? o t).map (o, ·)

/-- What follows blanks, comments and line ends that a backslash hides. -/
def skipIdle : Nat → Text → Text
  | n + 1, '\\' :: '\n' :: rest => skipIdle n rest
  | n + 1, c :: rest =>
    if c == ' ' || c == '\t' then skipIdle n rest
    else if c == '#' then rest.dropWhile (· != '\n')
    else c :: rest
  | _, t => t

/-- The script between two grave accents, and what follows it. A backslash protects another one, and
in double quotes also a double quote. -/
def graveSpan? (quoted : Bool) : Text → Option (Text × Text)
  | [] => none
  | '\\' :: c :: rest =>
    let kept := if c == '\x60' || c == '\\' || c == '$' || (quoted && c == '"') then [c]
      else ['\\', c]
    (graveSpan? quoted rest).map fun r => (kept ++ r.1, r.2)
  | c :: rest =>
    if c == '\x60' then some ([], rest) else (graveSpan? quoted rest).map fun r => (c :: r.1, r.2)

/-- The line that ends a document, whether something in it is quoted, and what follows it. -/
def delimiter? : Nat → Text → Option (Text × Bool × Text)
  | 0, _ => none
  | _, [] => some ([], false, [])
  | n + 1, c :: rest =>
    if endsWord c then some ([], false, c :: rest)
    else if c == '\x27' || c == '"' then
      let span := rest.takeWhile (· != c)
      match rest.drop span.length with
      | [] => none
      | _ :: rest => (delimiter? n rest).map fun r => (span ++ r.1, true, r.2.2)
    else match c, rest with
      | '\\', d :: rest => (delimiter? n rest).map fun r => (d :: r.1, true, r.2.2)
      | c, rest => (delimiter? n rest).map fun r => (c :: r.1, r.2.1, r.2.2)

/-- Whether a line ends with a backslash that hides the end of the line. -/
def isContinued (line : Text) : Bool := (line.reverse.takeWhile (· == '\\')).length % 2 == 1

/-- The lines of a document, and what follows the line that ends it. -/
def documentLines (a : Announced) : Nat → (continued : Bool) → Text → Text × Text
  | 0, _, t => (t, [])
  | _, _, [] => ([], [])
  | n + 1, continued, t =>
    let line := t.takeWhile (· != '\n')
    let rest := t.drop (line.length + 1)
    let kept := if a.dropTabs then line.dropWhile (· == '\t') else line
    if kept == a.delimiter && !continued then ([], rest)
    else
      let ending := if line.length < t.length then ['\n'] else []
      let (more, rest) := documentLines a n (!a.literal && isContinued line) rest
      (kept ++ ending ++ more, rest)

/-- The characters of a kind at the beginning of a text, and what follows them. Line ends that a
backslash hides do not count. -/
def spanOf (isIn : Char → Bool) : Text → Text × Text
  | '\\' :: '\n' :: rest => spanOf isIn rest
  | c :: rest =>
    if isIn c then
      let (span, rest) := spanOf isIn rest
      (c :: span, rest)
    else ([], c :: rest)
  | [] => ([], [])

/-- The name of a parameter in braces, whether its length is asked for, and what follows. The name is
empty if there is none. -/
def parameterHead : Text → Text × Bool × Text
  | [] => ([], false, [])
  | '#' :: c :: cs =>
    if isNameStart c then
      let (name, rest) := spanOf isNameChar (c :: cs)
      (name, true, rest)
    else if c.isDigit then
      let (name, rest) := spanOf Char.isDigit (c :: cs)
      (name, true, rest)
    else if c != '\x7d' && cs.head? == some '\x7d' && isSpecialParameter c then ([c], true, cs)
    else (['#'], false, c :: cs)
  | c :: cs =>
    if isNameStart c then
      let (name, rest) := spanOf isNameChar (c :: cs)
      (name, false, rest)
    else if c.isDigit then
      let (name, rest) := spanOf Char.isDigit (c :: cs)
      (name, false, rest)
    else if isSpecialParameter c then ([c], false, cs)
    else if c == '\x7d' then ([], false, c :: cs)
    else ([], false, cs)

/-- The use of a parameter for a word, whether the word is a pattern, and what follows its sign. -/
def useOf? : Text → Option ((Word → Use) × Bool × Text)
  | ':' :: '-' :: w => some (.orElse true, false, w)
  | ':' :: '=' :: w => some (.assign true, false, w)
  | ':' :: '+' :: w => some (.instead true, false, w)
  | ':' :: '?' :: w => some (.demand true, false, w)
  | '-' :: w => some (.orElse false, false, w)
  | '=' :: w => some (.assign false, false, w)
  | '+' :: w => some (.instead false, false, w)
  | '?' :: w => some (.demand false, false, w)
  | '#' :: '#' :: w => some (.dropStart true, true, w)
  | '#' :: w => some (.dropStart false, true, w)
  | '%' :: '%' :: w => some (.dropEnd true, true, w)
  | '%' :: w => some (.dropEnd false, true, w)
  | _ => none

end IndentTex.Simulation
