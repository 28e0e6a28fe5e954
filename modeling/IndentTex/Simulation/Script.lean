import IndentTex.Text.Basic

/-!
# Scripts

The commands of the shell and the words they are made of.
-/

namespace IndentTex.Simulation

/-- How a redirection opens its file. -/
inductive Opening where
  | input
  | output
  | append
  | both
  /-- The stream is a copy of another one. -/
  | copy
  deriving DecidableEq, Repr

mutual

/-- A piece of a word, with a flag for whether it stands in quotes. -/
inductive Piece where
  | literal (c : Char) (quoted : Bool)
  | parameter (name : Text) (use : Use) (quoted : Bool)
  | arithmetic (expression : List Piece) (quoted : Bool)
  /-- What a command prints. -/
  | output (command : Cmd) (quoted : Bool)
  /-- A quotation mark. It makes a field even of nothing. -/
  | quotes

/-- What is done with the value of a parameter. A flag says whether an empty value counts as no
value. -/
inductive Use where
  | value
  | length
  | orElse (emptyToo : Bool) (word : List Piece)
  | assign (emptyToo : Bool) (word : List Piece)
  | instead (emptyToo : Bool) (word : List Piece)
  | demand (emptyToo : Bool) (word : List Piece)
  | dropStart (longest : Bool) (pattern : List Piece)
  | dropEnd (longest : Bool) (pattern : List Piece)
  /-- Something that is not known. -/
  | unknown

/-- A redirection of a numbered stream. -/
inductive Redirection where
  | file (stream : Nat) (opening : Opening) (target : List Piece)
  /-- The stream reads a document in the script, which is known by a number. -/
  | document (stream number : Nat)

/-- A command. -/
inductive Cmd where
  | nop
  | simple (assignments : List (Text × List Piece)) (words : List (List Piece))
    (redirections : List Redirection)
  | redirected (redirections : List Redirection) (c : Cmd)
  | seq (a b : Cmd)
  | both (a b : Cmd)
  | either (a b : Cmd)
  | negated (a : Cmd)
  | pipe (a b : Cmd)
  | subshell (a : Cmd)
  | background (a : Cmd)
  | cond (test yes no : Cmd)
  | loop (untilTrue : Bool) (test body : Cmd)
  | each (name : Text) (words : Option (List (List Piece))) (body : Cmd)
  | choose (word : List Piece) (branches : List (List (List Piece) × Cmd))
  | define (name : Text) (body : Cmd)

end

/-- A word. -/
abbrev Word := List Piece

/-- The text of a word that has neither quotes nor expansions. -/
def Word.bare? : Word → Option Text
  | [] => some []
  | .literal c false :: ps => (bare? ps).map (c :: ·)
  | _ => none

/-- Characters that a variable name can start with. -/
def isNameStart (c : Char) : Bool := c.isAlpha || c == '_'

/-- Characters of a variable name. -/
def isNameChar (c : Char) : Bool := c.isAlphanum || c == '_'

/-- Whether a text is a variable name. -/
def isName : Text → Bool
  | [] => false
  | c :: cs => isNameStart c && cs.all isNameChar

/-- Parameters with a name of one special character. -/
def isSpecialParameter (c : Char) : Bool := "@*#?$!-0".toList.contains c

/-- The name and the value of a word that is an assignment. -/
def assignment? (w : Word) : Option (Text × Word) :=
  let rec split : Word → Option (Text × Word)
    | .literal c false :: ps =>
      if c == '=' then some ([], ps) else (split ps).map fun r => (c :: r.1, r.2)
    | _ => none
  match split w with
  | some (name, value) => if isName name then some (name, value) else none
  | none => none

end IndentTex.Simulation
