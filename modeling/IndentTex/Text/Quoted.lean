import IndentTex.Text.Printable

/-!
# Quoted text

Text between double quotes, in which quotes, backslashes and characters that cannot be shown are
written as escapes.
-/

namespace IndentTex.Text

/-- One character inside quotes. -/
def quoteChar (c : Char) : Text :=
  if c = '\t' then ['\\', 't']
  else if c = '\r' then ['\\', 'r']
  else if c = '\n' then ['\\', 'n']
  else if c = '\x00' then ['\\', '0']
  else if c = '\\' then ['\\', '\\']
  else if c = '"' then ['\\', '"']
  else if isPrintable c then [c]
  else ['\\', 'u', '\x7b'] ++ Nat.toDigits 16 c.toNat ++ ['\x7d']

/-- A text in double quotes. -/
def quote (t : Text) : Text := '"' :: t.flatMap quoteChar ++ ['"']

/-- Quoted texts in brackets, separated by a comma and a space. -/
def quoteList (ts : List Text) : Text := '[' :: joinWith [',', ' '] (ts.map quote) ++ [']']

end IndentTex.Text
