import IndentTex.Scan.Argument

/-!
# Reading lines and bodies

A line is copied with its groups and control sequences read whole. A control sequence followed by
a colon opens an environment. Its body is the rest of the line or the block of lines below, one
level deeper.
-/

namespace IndentTex.Scan

variable {σ : Type}

/-- The body of an environment (`EnvBody`). -/
structure Body where
  text : Text
  /-- Whether the body is a block of lines; it is the rest of the opening line otherwise. -/
  block : Bool
  deriving DecidableEq, Repr

/-- Goes from the end of a line of a block at `level` to the next line of the block. Gives the blank
lines in between, or nothing at the end of the block, where nothing is read. The block ends with
the source or before a line at a lower level, and a line at a higher level is an error. -/
def nextLine (level : Nat) : Scan σ (Option Text) := do
  let lineEnd ← mark
  if ← isFinished then
    return none
  else
    skip 1
    let blank ← skipBlankLines
    if ← isFinished then
      goTo lineEnd
      return none
    else
      let next ← indentLevel
      if next < level then
        goTo lineEnd
        return none
      else if level < next then
        raise .strayIndentation
      else
        return some blank

/-- Reads the lines of a block at `level`, from the indentation of the first one. The block ends
before the newline after its last line; blank lines after that are left alone. -/
def blockLoop (inner : Level σ) (level : Nat) : Nat → Scan σ Text
  | 0 => inner.line level false
  | n + 1 => do
    let line ← inner.line level false
    match ← nextLine level with
    | some blank => return line ++ '\n' :: blank ++ (← blockLoop inner level n)
    | none => return line

/-- Reads the lines of a block at `level` (`parse_block_lines`). -/
def blockLines (inner : Level σ) (level : Nat) : Scan σ Text := bounded (blockLoop inner level)

/-- Reads blank lines and the block that follows them, at the level of its first line
(`parse_block`). -/
def block (inner : Level σ) : Scan σ Text := do
  let blank ← skipBlankLines
  if ← isFinished then
    return blank
  else
    let level ← indentLevel
    return blank ++ (← blockLines inner level)

/-- Reads literal lines at `level`, like the lines of a block. -/
def rawLinesLoop (level : Nat) : Nat → Scan σ Text
  | 0 => skipLine
  | n + 1 => do
    let line ← skipLine
    match ← nextLine level with
    | some blank => return line ++ '\n' :: blank ++ (← rawLinesLoop level n)
    | none => return line

/-- Reads literal lines at `level` (`raw_block_lines`). -/
def rawLines (level : Nat) : Scan σ Text := bounded (rawLinesLoop level)

/-- Goes from the end of the line that opens an environment at `level` to the first line of its
body, which must be one level deeper (`enter_block_body`). Gives what stands in between. -/
def enterBlock (level : Nat) : Scan σ Text := do
  let blank ← skipBlankLines
  if ← isFinished then
    raise .missingBody
  else if (← indentLevel) = level + 1 then
    return blank
  else
    raise .missingIndentation

/-- Reads the body of an environment opened at `level`, just after its colon
(`parse_environment_body`). A comment on the opening line becomes the first line of the block. -/
def environmentBody (inner : Level σ) (level : Nat) : Scan σ Body := do
  let _ ← skipBlanks
  match ← peek with
  | none => raise .missingBody
  | some c =>
    if c = '\n' then
      let blank ← enterBlock level
      return ⟨blank ++ (← blockLines inner (level + 1)), true⟩
    else if c = '%' then
      skip 1
      let note ← comment
      let blank ← enterBlock level
      let margin ← margin (level + 1)
      return ⟨'\n' :: margin ++ note ++ blank ++ (← blockLines inner (level + 1)), true⟩
    else
      return ⟨← inner.line level true, false⟩

/-- Reads the literal body of an environment opened at `level`, just after its colon
(`parse_raw_environment_body`). -/
def rawBody (level : Nat) : Scan σ Body := do
  let _ ← skipBlanks
  match ← peek with
  | none => raise .missingBody
  | some c =>
    if c = '\n' then
      let blank ← enterBlock level
      return ⟨blank ++ (← rawLines (level + 1)), true⟩
    else
      return ⟨← skipLine, false⟩

/-- Reads the body of a registered environment opened at `level`, just after its colon. A block is
moved to the left margin. -/
def customBody (inner : Level σ) (e : Environment) (level : Nat) : Scan σ Text := do
  let body ← (if e.raw then rawBody level else environmentBody inner level)
  if body.block then
    return Text.dedentBlock (← margin (level + 1)) body.text
  else
    return body.text

/-- Reads the arguments and the body of a registered environment and gives its output, which is
moved to the margin of `level` (`parse_custom_environment`). -/
def customEnvironment (S : Setup σ) (inner : Level σ) (e : Environment) (level : Nat) :
    Scan σ Text := do
  let values ← arguments inner e.name e.params
  let _ ← skipBlanks
  match ← peek with
  | none => raise .colonAtEnd
  | some c =>
    if c = ':' then
      skip 1
      let body ← customBody inner e level
      let unit := (← get).indentation.unitText
      let output ← expand S.executor (e.generate unit body values)
      return Text.indentTail (← margin level) output
    else
      raise .missingColon

/-- Reads the body of an environment without a definition opened at `level`, just after its colon. A
block ends with a line for the end of the environment. -/
def nativeBody (inner : Level σ) (level : Nat) : Scan σ Text := do
  let body ← environmentBody inner level
  if body.block then
    return body.text ++ '\n' :: (← margin level)
  else
    return body.text

/-- Reads what follows a control sequence without a definition: its arguments and, after a colon,
the body of the environment that it then opens (`parse_native_control`). Only alphabetic names open
environments. -/
def nativeControl (inner : Level σ) (name : Text) (level : Nat) : Scan σ Text := do
  if name.all isAlphabetic then
    let args ← argumentText inner
    let start ← mark
    let _ ← skipBlanks
    if (← peek) = some ':' then
      skip 1
      return Markup.environment name args (← nativeBody inner level)
    else
      goTo start
      return Markup.control name ++ args
  else
    return Markup.control name

/-- Reads a control sequence in a line at `level`, from its backslash (`parse_block_control`). -/
def lineControl (S : Setup σ) (inner : Level σ) (level : Nat) : Scan σ Text := do
  skip 1
  let name ← controlName
  match S.registry.find? name with
  | some (.command c) => customCommand inner c
  | some (.environment e) => customEnvironment S inner e level
  | none => nativeControl inner name level

/-- The characters that end a plain run of text in a line. -/
def endsLineRun (c : Char) : Bool :=
  c = '\\' || c = '\n' || c = '\x7b' || c = '\x7d' || c = '%'

/-- Reads a line at `level` to its end, or up to a comment if `stopAtComment` is set (`scan_line`).
-/
def lineLoop (S : Setup σ) (inner : Level σ) (level : Nat) (stopAtComment : Bool) :
    Nat → Scan σ Text
  | 0 => return []
  | n + 1 => do
    let plain ← skipUntil endsLineRun
    match ← peek with
    | none => return plain
    | some c =>
      if c = '\n' ∨ (c = '%' ∧ stopAtComment) then
        return plain
      else if c = '%' then
        skip 1
        let note ← comment
        return plain ++ note ++ (← lineLoop S inner level stopAtComment n)
      else if c = '\\' then
        let control ← lineControl S inner level
        return plain ++ control ++ (← lineLoop S inner level stopAtComment n)
      else if c = '\x7b' then
        skip 1
        let body ← inner.group '\x7d'
        return plain ++ '\x7b' :: body ++ '\x7d' :: (← lineLoop S inner level stopAtComment n)
      else if c = '\x7d' then
        raise .unexpectedBrace
      else
        raise .internal

end IndentTex.Scan
