import IndentTex.Text.Basic

/-!
# Blank characters

The Unicode property White_Space, the blanks that stay on their line, and blank lines.
-/

namespace IndentTex

/-- Whether a character has the Unicode property White_Space. -/
def isBlank (c : Char) : Bool :=
  inRanges [(0x9, 0xd), (0x20, 0x20), (0x85, 0x85), (0xa0, 0xa0), (0x1680, 0x1680),
    (0x2000, 0x200a), (0x2028, 0x2029), (0x202f, 0x202f), (0x205f, 0x205f), (0x3000, 0x3000)] c

/-- Horizontal blanks: every blank except the newline (`is_horizontal_whitespace`). -/
def isHorizontal (c : Char) : Bool := isBlank c && c != '\n'

namespace Text

/-- Whether a text holds horizontal blanks only. -/
def isBlankLine (t : Text) : Bool := t.all isHorizontal

/-- A text without the blanks at its two ends. -/
def trim (t : Text) : Text := ((t.dropWhile isBlank).reverse.dropWhile isBlank).reverse

/-- The maximal beginning of a text made of blank lines, each with its newline. A last blank line
without a newline belongs to it. `line` holds the blanks already read on the current line, last
one first. -/
def blankLinesFrom (line : Text) : Text → Text
  | [] => line.reverse
  | c :: cs =>
    if c = '\n' then line.reverse ++ '\n' :: blankLinesFrom [] cs
    else if isHorizontal c then blankLinesFrom (c :: line) cs
    else []

/-- The blank lines at the beginning of a text (`skip_empty_lines`). -/
def blankLines (t : Text) : Text := blankLinesFrom [] t

/-- An output with one more line and its number: from the second line on with a newline, and with the
margin if the line is not empty. -/
def addLine (margin out : Text) (line : Text × Nat) : Text :=
  if line.2 > 0 then out ++ '\n' :: (if line.1.isEmpty then [] else margin) ++ line.1
  else out ++ line.1

/-- The text with `margin` put before every line that is not empty, except the first line
(`indent_after_first_line`). An empty margin leaves the text alone. -/
def indentTail (margin t : Text) : Text :=
  if margin.isEmpty then t else (splitLines t).zipIdx.foldl (addLine margin) []

/-- One line of a block moved to the left: the margin is taken off; a blank line that lacks it is
emptied, and any other line that lacks it stays. -/
def dedentLine (margin line : Text) : Text :=
  match dropStart? margin line with
  | some rest => rest
  | none => if isBlankLine line then [] else line

/-- The block after the first line of a text, with the margin taken off every line (`dedent_body`).
The result starts and ends with a newline, except that a text of one line gives a newline only. -/
def dedentBlock (margin t : Text) : Text :=
  ((splitLines t).drop 1).flatMap (fun l => '\n' :: dedentLine margin l) ++ ['\n']

end Text

end IndentTex
