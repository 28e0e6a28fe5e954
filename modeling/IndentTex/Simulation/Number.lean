import IndentTex.Text.Basic

/-!
# Numbers in the shell

Integers of 64 bits as the shell reads them: hexadecimal after `0x`, octal after `0`, and otherwise
decimal.
-/

namespace IndentTex.Simulation.Number

/-- The value of a digit. Letters stand for digits from ten on. -/
def digit? (c : Char) : Option Nat :=
  if c.isDigit then some (c.toNat - '0'.toNat)
  else if c.isLower then some (c.toNat - 'a'.toNat + 10)
  else if c.isUpper then some (c.toNat - 'A'.toNat + 10)
  else none

/-- Whether a character is a digit in a base. -/
def isDigitIn (base : Nat) (c : Char) : Bool := (digit? c).any (· < base)

/-- The value of digits in a base. -/
def ofDigits (base : Nat) (digits : Text) : Nat :=
  digits.foldl (fun k c => base * k + (digit? c).getD 0) 0

/-- The digits in a base at the beginning of a text as a number, and what follows them. -/
def digitsIn? (base : Nat) (t : Text) : Option (Nat × Text) :=
  let digits := t.takeWhile (isDigitIn base)
  if digits.isEmpty then none else some (ofDigits base digits, t.drop digits.length)

/-- The number without a sign at the beginning of a text, and what follows it. -/
def unsigned? : Text → Option (Nat × Text)
  | '0' :: x :: rest =>
    if x == 'x' || x == 'X' then some ((digitsIn? 16 rest).getD (0, x :: rest))
    else digitsIn? 8 ('0' :: x :: rest)
  | t => digitsIn? 10 t

/-- Blanks before and after numbers. -/
def isSpace (c : Char) : Bool := c == ' ' || ('\t' ≤ c && c ≤ '\r')

/-- The number with a sign at the beginning of a text, and what follows it. -/
def signed? (unsigned? : Text → Option (Nat × Text)) (t : Text) : Option (Int × Text) :=
  match t.dropWhile isSpace with
  | '-' :: rest => (unsigned? rest).map fun r => (-(r.1 : Int), r.2)
  | '+' :: rest => (unsigned? rest).map fun r => ((r.1 : Int), r.2)
  | rest => (unsigned? rest).map fun r => ((r.1 : Int), r.2)

/-- The least integer of 64 bits. -/
def least : Int := -0x8000000000000000

/-- The greatest integer of 64 bits. -/
def greatest : Int := 0x7fffffffffffffff

/-- The nearest integer of 64 bits. -/
def clamp (n : Int) : Int := max least (min greatest n)

/-- The integer of 64 bits with the same bits at the end. -/
def wrap (n : Int) : Int := Int.bmod n 0x10000000000000000

/-- The integer that is the whole of a text with blanks around it. -/
def whole? (unsigned? : Text → Option (Nat × Text)) (t : Text) : Option Int :=
  match signed? unsigned? t with
  | some (n, rest) =>
    if rest.all isSpace && n == clamp n then some n else none
  | none => none

/-- The integer that a decimal text stands for. -/
def decimal? (t : Text) : Option Int := whole? (digitsIn? 10) t

/-- The integer that the value of a variable stands for. Nothing is zero. -/
def ofValue? (t : Text) : Option Int :=
  if t.all isSpace then some 0 else whole? unsigned? t

/-- The text of an integer. -/
def write (n : Int) : Text := if n < 0 then '-' :: Text.ofNat n.natAbs else Text.ofNat n.natAbs

end IndentTex.Simulation.Number
