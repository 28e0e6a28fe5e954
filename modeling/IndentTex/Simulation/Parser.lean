import IndentTex.Simulation.Token

/-!
# Reading scripts

Scripts are read into commands. A script is executed one complete command at a time, so a mistake
further down shows only when it is reached.
-/

namespace IndentTex.Simulation

/-- Where the pieces of a word stand. -/
inductive Mode where
  /-- Outside of quotes. -/
  | word
  /-- Between double quotes. -/
  | quoted
  /-- In the braces of a parameter. -/
  | branch
  /-- In the braces of a parameter that stands in double quotes, and perhaps in more of them. -/
  | quotedBranch (inner : Bool)
  /-- In a document. -/
  | document
  /-- In an arithmetic expression, inside some parentheses. -/
  | arithmetic (depth : Nat)
  deriving DecidableEq, Repr

namespace Mode

/-- Whether characters stand for themselves. -/
def isQuoted (mode : Mode) : Bool := mode ≠ word && mode ≠ branch

/-- Whether the pieces may be ended by the end of the script. -/
def mayEnd (mode : Mode) : Bool := mode = word || mode = document

/-- The characters that a backslash protects, if they stand for themselves otherwise. -/
def isProtected (c : Char) : Mode → Bool
  | quotedBranch _ => "$\x60\"\\\x7d".toList.contains c
  | document => "$\x60\\".toList.contains c
  | _ => "$\x60\"\\".toList.contains c

/-- What follows the end of the pieces, if they end here. -/
def ended? (t : Text) : Mode → Option Text
  | word => if t.head?.any endsWord then some t else none
  | quoted => Text.dropStart? ['"'] t
  | branch => Text.dropStart? ['\x7d'] t
  | quotedBranch false => Text.dropStart? ['\x7d'] t
  | quotedBranch true => none
  | document => none
  | arithmetic 0 => Text.dropStart? [')', ')'] t
  | arithmetic _ => none

/-- The place after a character that is taken as it is. -/
def after (c : Char) : Mode → Mode
  | arithmetic depth =>
    if c == '(' then arithmetic (depth + 1) else if c == ')' then arithmetic (depth - 1)
    else arithmetic depth
  | mode => mode

end Mode

/-- Words that end a list of commands. -/
def closingWords : List Text :=
  ["then", "do", "done", "fi", "elif", "else", "esac", "\x7d"].map String.toList

/-- Whether a list of commands ends with a token. -/
def Token.endsList : Token → Bool
  | .ending => true
  | .operator o => o == [')'] || o == [';', ';']
  | t => t.bare?.any closingWords.contains

/-- A command with redirections around it. -/
def redirectAll (rs : List Redirection) (c : Cmd) : Cmd :=
  if rs.isEmpty then c else .redirected rs c

/-- A simple command under construction. -/
structure Simple where
  assignments : List (Text × Word)
  words : List Word
  redirections : List Redirection

/-- The pieces of a quotation. It makes a field even of nothing, unless it holds the list of all
parameters only. -/
def quotation (inside : Word) : Word :=
  match inside with
  | [.parameter ['@'] .value _] => inside
  | inside => .quotes :: inside

/-- Announces a document, just after its operator, and gives its number. -/
def announce (dropTabs : Bool) : Parse Nat := do
  let r ← get
  let t := r.rest.dropWhile fun c => c == ' ' || c == '\t'
  match delimiter? (t.length + 1) t with
  | none => failure
  | some (delimiter, literal, rest) =>
    if delimiter.isEmpty && !literal then failure
    else
      let a : Announced := { number := r.next, delimiter, literal, dropTabs }
      set { r with rest := rest, announced := r.announced ++ [a], next := r.next + 1 }
      return a.number

mutual

/-- The pieces of a word up to their end. -/
def pieces : Nat → Mode → Parse Word
  | 0, _ => failure
  | n + 1, mode => do
    let more (kept : Word) (rest : Text) (mode : Mode) : Parse Word := do
      Parse.goto rest
      return kept ++ (← pieces n mode)
    let t := (← get).rest
    match mode.ended? t with
    | some rest =>
      Parse.goto rest
      return []
    | none =>
      match t with
      | [] => if mode.mayEnd then return [] else failure
      | '\\' :: '\n' :: rest => more [] rest mode
      | '\\' :: c :: rest =>
        if !mode.isQuoted || mode.isProtected c then more [.literal c true] rest mode
        else more [.literal '\\' true, .literal c true] rest mode
      | '$' :: rest =>
        Parse.goto rest
        let p ← expansion n mode.isQuoted
        return p :: (← pieces n mode)
      | c :: rest =>
        if c == '\x60' then
          match graveSpan? (mode = .quoted) rest with
          | none => failure
          | some (script, rest) =>
            let command ← Parse.within script (list n true)
            more [.output command mode.isQuoted] rest mode
        else if c == '\x27' && !mode.isQuoted then
          let span := rest.takeWhile (· != '\x27')
          if span.length < rest.length then
            more (.quotes :: span.map (.literal · true)) (rest.drop (span.length + 1)) mode
          else failure
        else if c == '"' && !mode.isQuoted then
          Parse.goto rest
          let inside ← pieces n .quoted
          return quotation inside ++ (← pieces n mode)
        else match c, mode with
          | '"', .quotedBranch inner => more [.quotes] rest (.quotedBranch !inner)
          | c, mode => more [.literal c mode.isQuoted] rest (mode.after c)

/-- The expansion after a dollar sign, or the sign itself. -/
def expansion : Nat → (quoted : Bool) → Parse Piece
  | 0, _ => failure
  | n + 1, quoted => do
    match (← get).rest with
    | '(' :: '(' :: rest =>
      Parse.goto rest
      return .arithmetic (← pieces n (.arithmetic 0)) quoted
    | '(' :: rest =>
      let announced := (← get).announced
      modify fun r => { r with rest := rest, announced := [] }
      let command ← list n true
      if (← nextToken n).isOperator ")" then
        modify fun r => { r with announced := announced }
        return .output command quoted
      else failure
    | '\x7b' :: rest =>
      Parse.goto rest
      parameter n quoted
    | c :: rest =>
      if isNameStart c then
        let (name, rest) := spanOf isNameChar (c :: rest)
        Parse.goto rest
        return .parameter name .value quoted
      else if c.isDigit || isSpecialParameter c then
        Parse.goto rest
        return .parameter [c] .value quoted
      else return .literal '$' quoted
    | [] => return .literal '$' quoted

/-- A parameter in braces, just after the opening one. -/
def parameter : Nat → (quoted : Bool) → Parse Piece
  | 0, _ => failure
  | n + 1, quoted => do
    let (name, isLength, rest) := parameterHead (← get).rest
    let mode := if quoted then Mode.quotedBranch false else .branch
    match rest with
    | '\x7d' :: after =>
      Parse.goto after
      if name.isEmpty then return .parameter [] .unknown quoted
      else return .parameter name (if isLength then .length else .value) quoted
    | rest =>
      match if isLength || name.isEmpty then none else useOf? rest with
      | some (use, isPattern, rest) =>
        Parse.goto rest
        let word ← pieces n (if isPattern then .branch else mode)
        return .parameter name (use word) quoted
      | none =>
        Parse.goto (if isLength then rest else rest.drop (if rest.head? == some ':' then 2 else 1))
        let _ ← pieces n mode
        return .parameter [] .unknown quoted

/-- Reads the documents that have been announced, at the beginning of a line. -/
def readDocuments : Nat → Parse Unit
  | 0 => failure
  | n + 1 => do
    let r ← get
    match r.announced with
    | [] => return
    | a :: announced =>
      let (t, rest) := documentLines a (r.rest.length + 1) false r.rest
      set { r with rest := rest, announced := announced }
      let word ← if a.literal then pure (t.map (.literal · true))
        else Parse.within t (pieces n .document)
      modify fun r => { r with documents := (a.number, word) :: r.documents }
      readDocuments n

/-- Takes the next token. -/
def nextToken : Nat → Parse Token
  | 0 => failure
  | n + 1 => do
    let r ← get
    match r.ahead with
    | some t =>
      set { r with ahead := none }
      return t
    | none =>
      let t := skipIdle r.rest.length r.rest
      Parse.goto t
      match t with
      | [] =>
        readDocuments n
        return .ending
      | '\n' :: rest =>
        Parse.goto rest
        readDocuments n
        return .newline
      | t =>
        match operator? t with
        | some (o, rest) =>
          Parse.goto rest
          return .operator o
        | none =>
          let w ← pieces n .word
          let next := (← get).rest.head?
          match w with
          | [.literal d false] =>
            if d.isDigit && (next == some '<' || next == some '>') then
              return .stream (d.toNat - '0'.toNat)
            else return .word w
          | w => return .word w

/-- Looks at the next token. -/
def peekToken : Nat → Parse Token
  | 0 => failure
  | n + 1 => do
    let t ← nextToken n
    modify fun r => { r with ahead := some t }
    return t

/-- Takes the given word, which must be next. -/
def expectWord : Nat → String → Parse Unit
  | 0, _ => failure
  | n + 1, name => do
    if (← nextToken n).isWord name then return else failure

/-- Skips line ends. -/
def skipNewlines : Nat → Parse Unit
  | 0 => failure
  | n + 1 => do
    match ← peekToken n with
    | .newline =>
      let _ ← nextToken n
      skipNewlines n
    | _ => return

/-- The redirection that comes next, if there is one. -/
def redirection? : Nat → Parse (Option Redirection)
  | 0 => failure
  | n + 1 => do
    match ← peekToken n with
    | .stream k =>
      let _ ← nextToken n
      match ← redirectionFrom? n (some k) with
      | some r => return some r
      | none => failure
    | _ => redirectionFrom? n none

/-- The redirection of a stream that comes next, just after its number. -/
def redirectionFrom? : Nat → Option Nat → Parse (Option Redirection)
  | 0, _ => failure
  | n + 1, stream? => do
    let file (stream : Nat) (opening : Opening) : Parse (Option Redirection) := do
      let _ ← nextToken n
      match ← nextToken n with
      | .word w => return some (.file (stream?.getD stream) opening w)
      | _ => failure
    let document (dropTabs : Bool) : Parse (Option Redirection) := do
      let _ ← nextToken n
      return some (.document (stream?.getD 0) (← announce dropTabs))
    match ← peekToken n with
    | .operator o =>
      match String.ofList o with
      | "<" => file 0 .input
      | ">" | ">|" => file 1 .output
      | ">>" => file 1 .append
      | "<>" => file 0 .both
      | "<&" => file 0 .copy
      | ">&" => file 1 .copy
      | "<<" => document false
      | "<<-" => document true
      | _ => return none
    | _ => return none

/-- The redirections that come next. -/
def redirections : Nat → Parse (List Redirection)
  | 0 => failure
  | n + 1 => do
    match ← redirection? n with
    | some r => return r :: (← redirections n)
    | none => return []

/-- The rest of a simple command. -/
def simple : Nat → Simple → Parse Simple
  | 0, _ => failure
  | n + 1, s => do
    match ← redirection? n with
    | some r => simple n { s with redirections := s.redirections ++ [r] }
    | none =>
      match ← peekToken n with
      | .word w =>
        let _ ← nextToken n
        match if s.words.isEmpty then assignment? w else none with
        | some a => simple n { s with assignments := s.assignments ++ [a] }
        | none => simple n { s with words := s.words ++ [w] }
      | _ => return s

/-- A list of commands up to a token that ends it. -/
def list : Nat → (mayBeEmpty : Bool) → Parse Cmd
  | 0, _ => failure
  | n + 1, mayBeEmpty => do
    skipNewlines n
    if mayBeEmpty && (← peekToken n).endsList then return .nop
    else items n

/-- The commands of a list, of which there is at least one. -/
def items : Nat → Parse Cmd
  | 0 => failure
  | n + 1 => do
    let a ← chain n
    match ← separator n with
    | none => return a
    | some isBackground =>
      let a := if isBackground then .background a else a
      skipNewlines n
      if (← peekToken n).endsList then return a
      else return .seq a (← items n)

/-- Takes what separates commands, and says whether the one before goes on in the background. -/
def separator : Nat → Parse (Option Bool)
  | 0 => failure
  | n + 1 => do
    match ← peekToken n with
    | .newline =>
      let _ ← nextToken n
      return some false
    | .operator o =>
      if o == [';'] || o == ['&'] then
        let _ ← nextToken n
        return some (o == ['&'])
      else return none
    | _ => return none

/-- The commands of a line. -/
def line : Nat → Parse Cmd
  | 0 => failure
  | n + 1 => do
    let a ← chain n
    match ← nextToken n with
    | .ending => return a
    | .newline => return a
    | .operator o =>
      if o == [';'] || o == ['&'] then
        let a := if o == ['&'] then .background a else a
        match ← peekToken n with
        | .ending => return a
        | .newline =>
          let _ ← nextToken n
          return a
        | _ => return .seq a (← line n)
      else failure
    | _ => failure

/-- Pipelines joined by the operators for success and failure. -/
def chain : Nat → Parse Cmd
  | 0 => failure
  | n + 1 => do
    chainRest n (← pipeline n)

/-- What follows the first pipelines of a chain. -/
def chainRest : Nat → Cmd → Parse Cmd
  | 0, _ => failure
  | n + 1, a => do
    let t ← peekToken n
    if t.isOperator "&&" || t.isOperator "||" then
      let _ ← nextToken n
      skipNewlines n
      let b ← pipeline n
      chainRest n (if t.isOperator "&&" then .both a b else .either a b)
    else return a

/-- Commands joined by pipes, perhaps negated. -/
def pipeline : Nat → Parse Cmd
  | 0 => failure
  | n + 1 => do
    if (← peekToken n).isWord "!" then
      let _ ← nextToken n
      return .negated (← pipeline n)
    else pipelineRest n (← command n)

/-- What follows the first commands of a pipeline. -/
def pipelineRest : Nat → Cmd → Parse Cmd
  | 0, _ => failure
  | n + 1, a => do
    if (← peekToken n).isOperator "|" then
      let _ ← nextToken n
      skipNewlines n
      let b ← command n
      pipelineRest n (.pipe a b)
    else return a

/-- A single command with its redirections. -/
def command : Nat → Parse Cmd
  | 0 => failure
  | n + 1 => do
    let closed (c : Cmd) : Parse Cmd := do
      return redirectAll (← redirections n) c
    let t ← peekToken n
    if t.isOperator "(" then
      let _ ← nextToken n
      let a ← list n false
      if (← nextToken n).isOperator ")" then closed (.subshell a) else failure
    else match t.bare? with
      | none => simpleCommand n
      | some name =>
        match String.ofList name with
        | "if" =>
          let _ ← nextToken n
          closed (← cond n)
        | "while" =>
          let _ ← nextToken n
          closed (← loop n false)
        | "until" =>
          let _ ← nextToken n
          closed (← loop n true)
        | "for" =>
          let _ ← nextToken n
          closed (← each n)
        | "case" =>
          let _ ← nextToken n
          closed (← choose n)
        | "\x7b" =>
          let _ ← nextToken n
          let a ← list n false
          expectWord n "\x7d"
          closed a
        | _ => if closingWords.contains name then failure else simpleCommand n

/-- A simple command with at least one part, or the definition of a function. -/
def simpleCommand : Nat → Parse Cmd
  | 0 => failure
  | n + 1 => do
    let s ← simple n ⟨[], [], []⟩
    let plain : Cmd := .simple s.assignments s.words s.redirections
    match s.assignments, s.words, s.redirections with
    | [], [], [] => failure
    | [], [w], [] =>
      match w.bare? with
      | none => return plain
      | some name =>
        if isName name && (← peekToken n).isOperator "(" then
          let _ ← nextToken n
          if (← nextToken n).isOperator ")" then
            skipNewlines n
            return .define name (← command n)
          else failure
        else return plain
    | _, _, _ => return plain

/-- The rest of a conditional. -/
def cond : Nat → Parse Cmd
  | 0 => failure
  | n + 1 => do
    let test ← list n false
    expectWord n "then"
    let yes ← list n false
    let t ← nextToken n
    if t.isWord "elif" then return .cond test yes (← cond n)
    else if t.isWord "else" then
      let no ← list n false
      expectWord n "fi"
      return .cond test yes no
    else if t.isWord "fi" then return .cond test yes .nop
    else failure

/-- The rest of a loop. -/
def loop : Nat → Bool → Parse Cmd
  | 0, _ => failure
  | n + 1, untilTrue => do
    let test ← list n false
    expectWord n "do"
    let body ← list n false
    expectWord n "done"
    return .loop untilTrue test body

/-- The rest of a loop over words. -/
def each : Nat → Parse Cmd
  | 0 => failure
  | n + 1 => do
    match (← nextToken n).bare? with
    | none => failure
    | some name =>
      if !isName name then failure
      else
        skipNewlines n
        let t ← peekToken n
        let words ← if t.isWord "in" then do
            let _ ← nextToken n
            pure (some (← wordsToEnd n))
          else if t.isOperator ";" then do
            let _ ← nextToken n
            pure none
          else pure none
        skipNewlines n
        expectWord n "do"
        let body ← list n false
        expectWord n "done"
        return .each name words body

/-- The words up to the end of a line or a semicolon, which is left out. -/
def wordsToEnd : Nat → Parse (List Word)
  | 0 => failure
  | n + 1 => do
    match ← nextToken n with
    | .word w => return w :: (← wordsToEnd n)
    | .newline => return []
    | .operator o => if o == [';'] then return [] else failure
    | _ => failure

/-- The rest of a choice between patterns. -/
def choose : Nat → Parse Cmd
  | 0 => failure
  | n + 1 => do
    match ← nextToken n with
    | .word w =>
      skipNewlines n
      expectWord n "in"
      return .choose w (← branches n)
    | _ => failure

/-- The branches of a choice up to its end. -/
def branches : Nat → Parse (List (List Word × Cmd))
  | 0 => failure
  | n + 1 => do
    skipNewlines n
    let t ← peekToken n
    if t.isWord "esac" then
      let _ ← nextToken n
      return []
    else
      if t.isOperator "(" then
        let _ ← nextToken n
      let patterns ← branchPatterns n
      let body ← list n true
      let t ← nextToken n
      if t.isOperator ";;" then return (patterns, body) :: (← branches n)
      else if t.isWord "esac" then return [(patterns, body)]
      else failure

/-- The patterns of a branch up to its closing parenthesis. -/
def branchPatterns : Nat → Parse (List Word)
  | 0 => failure
  | n + 1 => do
    match ← nextToken n with
    | .word w =>
      let t ← nextToken n
      if t.isOperator ")" then return [w]
      else if t.isOperator "|" then return w :: (← branchPatterns n)
      else failure
    | _ => failure

end

/-- How far a text is read at most. -/
def patienceFor (t : Text) : Nat := 8 * t.length + 64

/-- The documents of a script that have been read, and the number of the next one. -/
structure Documents where
  words : List (Nat × Word)
  next : Nat

/-- The commands of the next line of a script that is not empty, what follows them, and the documents
that have been read by then. There is no command at the end of the script. -/
def nextLine? (t : Text) (docs : Documents) : Option (Option Cmd × Text × Documents) :=
  let n := patienceFor t
  let start : Parse (Option Cmd) := do
    skipNewlines n
    match ← peekToken n with
    | .ending => return none
    | _ => return some (← line n)
  match start ⟨t, none, [], docs.words, docs.next⟩ with
  | some (c, r) => some (c, r.rest, ⟨r.documents, r.next⟩)
  | none => none

end IndentTex.Simulation
