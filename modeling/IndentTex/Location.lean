import IndentTex.Text.Basic

/-!
# Locations

A place in a text: its offset in bytes, its line, and its column counted in characters. Lines and
columns start from one.
-/

namespace IndentTex

/-- A place in a text. -/
structure Location where
  /-- Bytes before the place. -/
  offset : Nat
  /-- The line, from one. -/
  line : Nat
  /-- The column in characters, from one. -/
  column : Nat
  deriving DecidableEq, Repr, Inhabited

namespace Location

/-- The last place of the text that is at most `offset` bytes from its start: an offset behind the
end is taken back to the end, and one within a character to the start of the character
(`from_offset`). -/
def ofOffset (text : Text) (offset : Nat) : Location :=
  let offset := text.lastBoundary (min offset text.byteSize)
  let before := text.takeBytes offset
  { offset := offset
    line := before.count '\n' + 1
    column := (before.reverse.takeWhile (· != '\n')).length + 1 }

/-- A location in words. -/
def describe (l : Location) : Text :=
  "line ".toList ++ Text.ofNat l.line ++ ", column ".toList ++ Text.ofNat l.column

end Location

end IndentTex
