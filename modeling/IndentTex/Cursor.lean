import IndentTex.Location
import IndentTex.Text.Blank

/-!
# Cursors

A cursor is a place in a text, held as what is behind it and what is still to be read. It moves by
whole characters, and a cursor kept from earlier is a place to go back to.
-/

namespace IndentTex

/-- A place in a text (`Cursor`). -/
structure Cursor where
  /-- What has been read, last character first. -/
  behind : Text
  /-- What is still to be read. -/
  rest : Text
  deriving DecidableEq, Repr

namespace Cursor

/-- The start of a text (`new`). -/
def start (text : Text) : Cursor := ⟨[], text⟩

/-- The whole text. -/
def text (c : Cursor) : Text := c.behind.reverse ++ c.rest

/-- The bytes before the cursor (`pos`). -/
def offset (c : Cursor) : Nat := c.behind.byteSize

/-- The place of the cursor. -/
def location (c : Cursor) : Location := Location.ofOffset c.text c.offset

/-- Whether everything has been read (`is_finished`). -/
def isFinished (c : Cursor) : Bool := c.rest.isEmpty

/-- The next character. -/
def peek (c : Cursor) : Option Char := c.rest.head?

/-- Whether the next character is `x` (`at`). -/
def isAt (c : Cursor) (x : Char) : Bool := c.peek == some x

/-- The cursor `n` characters further, or at the end of the text (`advance_one`). -/
def advance (c : Cursor) (n : Nat) : Cursor where
  behind := (c.rest.take n).reverse ++ c.behind
  rest := c.rest.drop n

/-- The maximal run of characters with the property `p` that comes next (`skip_while`). -/
def run (c : Cursor) (p : Char → Bool) : Text := c.rest.takeWhile p

/-- The text between an earlier cursor and this one (`since`). -/
def since (c mark : Cursor) : Text :=
  (c.behind.take (c.behind.length - mark.behind.length)).reverse

/-- The bytes before the line of the cursor (`line_start`). -/
def lineStart (c : Cursor) : Nat := c.offset - Text.byteSize (c.behind.takeWhile (· != '\n'))

/-- The rest of the line, without its newline (`rest_of_line`). -/
def restOfLine (c : Cursor) : Text := c.run (· != '\n')

/-- The horizontal blanks that come next (`line_indentation`). -/
def indentation (c : Cursor) : Text := c.run isHorizontal

/-- Whether only horizontal blanks are left on the line (`line_is_empty`). -/
def isOnBlankLine (c : Cursor) : Bool := c.restOfLine.isBlankLine

/-- The blank lines that come next (`skip_empty_lines`). -/
def blankLines (c : Cursor) : Text := c.rest.blankLines

end Cursor

end IndentTex
