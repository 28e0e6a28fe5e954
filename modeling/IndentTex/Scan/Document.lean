import IndentTex.Scan.Nesting

/-!
# Reading fragments and documents

A fragment is a sequence of blocks. A document has a preamble of control sequences, comments and
blank lines, a delimiter line of equals signs, and a body that becomes the document environment.
-/

namespace IndentTex.Scan

variable {σ : Type}

/-- Reads blocks to the end of the source. -/
def fragmentLoop (inner : Level σ) : Nat → Scan σ Text
  | 0 => block inner
  | n + 1 => do
    let text ← block inner
    if ← isFinished then
      return text
    else
      skip 1
      return text ++ '\n' :: (← fragmentLoop inner n)

/-- Reads a whole source as a fragment (`translate_fragment`). -/
def fragment (inner : Level σ) : Scan σ Text := bounded (fragmentLoop inner)

/-- The spaces and tabs that may stand around a delimiter. -/
def isDelimiterBlank (c : Char) : Bool := c = ' ' || c = '\t'

/-- What follows the delimiter that a line starts with: three or more equals signs, which may be
indented. -/
def afterDelimiter? (line : Text) : Option Text :=
  let signs := line.dropWhile isDelimiterBlank
  if 3 ≤ (signs.takeWhile (· = '=')).length then some (signs.dropWhile (· = '=')) else none

/-- Whether a line starts with a delimiter. -/
def startsWithDelimiter (line : Text) : Bool := (afterDelimiter? line).isSome

/-- Whether a line is a delimiter and nothing else. -/
def isDelimiterLine (line : Text) : Bool :=
  (afterDelimiter? line).any fun rest => rest.all isDelimiterBlank

/-- Reads the delimiter line, after which the document begins. -/
def delimiter : Scan σ Unit := do
  if isDelimiterLine (← mark).restOfLine then
    let _ ← skipLine
    if ← isFinished then
      raise .missingDocument
    else
      skip 1
      modify fun s => { s with inDocument := true }
  else
    raise .textAfterDelimiter

/-- Reads the lines of the document. A document of blank lines only has none, and nothing is read. -/
def documentBody (inner : Level σ) : Scan σ Text := do
  let start ← mark
  let blank ← skipBlankLines
  if ← isFinished then
    goTo start
    return []
  else if (← mark).indentation = [] then
    return blank ++ (← blockLines inner 0)
  else
    raise .indentedDocument

/-- Reads the delimiter line and the document (`parse_document`). Blanks after the last line follow
the document environment. -/
def document (inner : Level σ) : Scan σ Text := do
  delimiter
  let body ← documentBody inner
  let trailing ← skipWhile fun _ => true
  return Markup.environment "document".toList [] ('\n' :: body ++ ['\n']) ++ trailing

/-- Reads a line of the preamble: a blank one, or one that starts with a control sequence or a
comment. -/
def preambleLine (inner : Level σ) : Scan σ Text := do
  let c ← mark
  if c.isOnBlankLine then
    skipLine
  else if c.indentation ≠ [] then
    raise .indentedPreamble
  else if c.peek = some '\\' ∨ c.peek = some '%' then
    inner.line 0 false
  else
    raise .textInPreamble

/-- Reads the preamble line by line and then the document. -/
def rootLoop (inner : Level σ) : Nat → Scan σ Text
  | 0 => raise .missingDocument
  | n + 1 => do
    if startsWithDelimiter (← mark).restOfLine then
      document inner
    else
      let line ← preambleLine inner
      if ← isFinished then
        raise .missingDocument
      else
        skip 1
        return line ++ '\n' :: (← rootLoop inner n)

/-- Reads a whole source as a document with its preamble (`parse_root`). -/
def root (inner : Level σ) : Scan σ Text := bounded (rootLoop inner)

end IndentTex.Scan
