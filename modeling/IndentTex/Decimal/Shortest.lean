import IndentTex.Decimal.Nearest
import IndentTex.Text.Basic

/-!
# Shortest decimals

The shortest decimal number that reads back as a given floating-point number, and its text in
positional notation.
-/

namespace IndentTex.Decimal

/-- A positive number `digits * 10 ^ exponent`. -/
structure Scaled where
  digits : Nat
  exponent : Int
  deriving DecidableEq, Repr

/-- The floating-point number nearest to a decimal number. -/
def Scaled.toFloat (s : Scaled) : Float := ofDecimal s.digits s.exponent

/-- A positive finite number as an exact fraction. -/
def fraction (x : Float) : Nat × Nat :=
  let bits := x.toBits.toNat
  let biased : Nat := bits / 0x10000000000000 % 0x800
  let low : Nat := bits % 0x10000000000000
  let (m, e) : Nat × Int :=
    if biased = 0 then (low, -1074) else (low + 0x10000000000000, (biased : Int) - 1075)
  if e < 0 then (m, Nat.pow 2 e.natAbs) else (m * Nat.pow 2 e.natAbs, 1)

/-- The number of digits before the point of a positive fraction; it is negative or zero if zeros
follow the point. -/
def magnitude (num den : Nat) : Int :=
  if den ≤ num then (Nat.toDigits 10 (num / den)).length
  else 1 - (Nat.toDigits 10 ((den + num - 1) / num - 1)).length

/-- The two decimal numbers of `n` digits around a fraction, the nearer one first. -/
def neighbours (num den : Nat) (n : Nat) : List Scaled :=
  let shift := (n : Int) - magnitude num den
  let (a, b) := if shift < 0 then (num, den * Nat.pow 10 shift.natAbs)
    else (num * Nat.pow 10 shift.natAbs, den)
  let low : Scaled := ⟨a / b, -shift⟩
  let high : Scaled := ⟨a / b + 1, -shift⟩
  if 2 * (a % b) < b ∨ (2 * (a % b) = b ∧ a / b % 2 = 0) then [low, high] else [high, low]

/-- The shortest decimal number that reads back as a positive finite number. -/
def shortest (x : Float) : Scaled :=
  let (num, den) := fraction x
  let candidates := (List.range 17).flatMap fun n => neighbours num den (n + 1)
  (candidates.find? fun s => s.toFloat == x).getD ⟨0, 0⟩

/-- A positive decimal number in positional notation. -/
def Scaled.write (s : Scaled) : Text :=
  let digits := Text.ofNat s.digits
  if 0 ≤ s.exponent then digits ++ List.replicate s.exponent.toNat '0'
  else
    let places := s.exponent.natAbs
    let padded := List.replicate (places + 1 - digits.length) '0' ++ digits
    let whole := padded.take (padded.length - places)
    let part := ((padded.drop (padded.length - places)).reverse.dropWhile (· == '0')).reverse
    if part.isEmpty then whole else whole ++ '.' :: part

/-- A floating-point number in positional notation, without a point if it is whole. -/
def write (x : Float) : Text :=
  if x.isNaN then "NaN".toList
  else
    let sign := if x.toBits ≥ 0x8000000000000000 then ['-'] else []
    let x := x.abs
    if x == 0 then sign ++ ['0']
    else if x.isInf then sign ++ "inf".toList
    else sign ++ (shortest x).write

end IndentTex.Decimal
