import IndentTex.Cursor
import IndentTex.Indentation
import IndentTex.Registry

/-!
# The state of a run

A run reads its source through a cursor. It keeps the indentation unit, whether the
document has begun, and the state of the executor. A step of it succeeds or fails, and either way
leaves a state behind. The registry and the executor themselves are given once and stay the same.
-/

namespace IndentTex

/-- What is fixed for a whole run. -/
structure Setup (σ : Type) where
  registry : Registry
  executor : Executor σ

/-- What changes during a run (`TranslationState`). -/
structure State (σ : Type) where
  cursor : Cursor
  indentation : Indentation
  /-- Whether the delimiter before the document has been read. -/
  inDocument : Bool
  /-- The state of the executor. -/
  host : σ

/-- The state at the start of a source. -/
def State.start {σ : Type} (source : Text) (host : σ) : State σ :=
  ⟨.start source, .unset, false, host⟩

/-- Steps of a run. The state is kept when a step fails. -/
abbrev Scan (σ : Type) := EStateM Error (State σ)

namespace Scan

variable {σ : Type}

/-- Fails at the cursor (`error`). -/
def raise {α : Type} (cause : Cause) : Scan σ α := fun s =>
  .error ⟨cause, some s.cursor.location⟩ s

/-- The cursor (`checkpoint`). -/
def mark : Scan σ Cursor := return (← get).cursor

/-- Goes to a cursor, forward or back (`restore`). -/
def goTo (c : Cursor) : Scan σ Unit := modify fun s => { s with cursor := c }

/-- The next character. -/
def peek : Scan σ (Option Char) := return (← mark).peek

/-- Whether the source has been read to its end. -/
def isFinished : Scan σ Bool := return (← mark).isFinished

/-- Reads `n` characters, or as many as there are. -/
def skip (n : Nat) : Scan σ Unit := modify fun s => { s with cursor := s.cursor.advance n }

/-- Reads the maximal run of characters with the property `p` (`skip_while`). -/
def skipWhile (p : Char → Bool) : Scan σ Text := do
  let run := (← mark).run p
  skip run.length
  return run

/-- Reads up to the first character with the property `p` (`skip_until`). -/
def skipUntil (p : Char → Bool) : Scan σ Text := skipWhile fun c => !p c

/-- Reads horizontal blanks. -/
def skipBlanks : Scan σ Text := skipWhile isHorizontal

/-- Reads to the end of the line. -/
def skipLine : Scan σ Text := skipUntil (· == '\n')

/-- Reads blank lines (`skip_empty_lines`). -/
def skipBlankLines : Scan σ Text := do
  let lines := (← mark).blankLines
  skip lines.length
  return lines

/-- The level of the line at the cursor, by its indentation, which is not read (`indent_level`). -/
def indentLevel : Scan σ Nat := fun s =>
  match Indentation.levelOf s.cursor.indentation s.indentation with
  | .ok level i => .ok level { s with indentation := i }
  | .error cause i => .error ⟨cause, some s.cursor.location⟩ { s with indentation := i }

/-- The indentation of a level (`prefix`). -/
def margin (level : Nat) : Scan σ Text := return (← get).indentation.margin level

/-- The output of a definition; its error is placed at the cursor unless it has a place (`locate`).
-/
def produce (output : Except Error Text) : Scan σ Text := fun s =>
  match output with
  | .ok t => .ok t s
  | .error e => .error (e.orAt s.cursor.location) s

/-- Carries out the expansion of an environment. -/
def expand (executor : Executor σ) (expansion : Expansion) : Scan σ Text := fun s =>
  let (output, host) := expansion.run executor s.host
  produce output { s with host := host }

/-- Runs a loop that is given the number of characters left, which no loop can outrun: each round
reads at least one character. -/
def bounded {α : Type} (loop : Nat → Scan σ α) : Scan σ α := fun s => loop s.cursor.rest.length s

end Scan

/-- The steps that lead one nesting level deeper. The functions that read arguments, lines and
bodies are given a level and use it wherever they nest. -/
structure Level (σ : Type) where
  /-- Reads a group up to and including its closing character. -/
  group : Char → Scan σ Text
  /-- Reads the inside of brackets that must close on their line, or nothing. -/
  brackets : Scan σ (Option Text)
  /-- Reads a line at an indentation level; a comment ends it if the flag is set. -/
  line : Nat → Bool → Scan σ Text

end IndentTex
