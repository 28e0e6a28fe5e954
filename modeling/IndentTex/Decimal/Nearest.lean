/-!
# Nearest floating-point numbers

The floating-point number nearest to a fraction, or to a decimal number, by exact arithmetic.
-/

namespace IndentTex.Decimal

/-- A whole number times a power of two. -/
def binary (m : Nat) (exponent : Int) : Float := (Float.ofNat m).scaleB exponent

/-- A fraction rounded to a whole number. A half goes to the even neighbour. -/
def roundHalfEven (num den : Nat) : Nat :=
  let whole := num / den
  let rest := num % den
  if den < 2 * rest ∨ (den = 2 * rest ∧ whole % 2 = 1) then whole + 1 else whole

/-- A fraction divided by a power of two. -/
def dividePower (num den : Nat) (exponent : Int) : Nat × Nat :=
  if 0 ≤ exponent then (num, den * Nat.pow 2 exponent.natAbs)
  else (num * Nat.pow 2 exponent.natAbs, den)

/-- The exponent of the last binary place that a floating-point number near a positive fraction has.
There are 53 places, and none below the 1074th after the point. -/
def lastPlace (num den : Nat) : Int :=
  let guess : Int := (num.log2 : Int) - den.log2 - 53
  let (a, b) := dividePower num den guess
  max (if a / b < 0x20000000000000 then guess else guess + 1) (-1074)

/-- The floating-point number nearest to a positive fraction. A half goes to the even neighbour. -/
def nearest (num den : Nat) : Float :=
  let exponent := lastPlace num den
  let (a, b) := dividePower num den exponent
  binary (roundHalfEven a b) exponent

/-- The number of decimal digits of a number. -/
def digitCount (n : Nat) : Nat := (Nat.toDigits 10 n).length

/-- The floating-point number nearest to `digits * 10 ^ exponent`. -/
def ofDecimal (digits : Nat) (exponent : Int) : Float :=
  let size := exponent + digitCount digits
  if digits = 0 ∨ size < -400 then 0.0
  else if 400 < size then 1.0 / 0.0
  else if 0 ≤ exponent then nearest (digits * Nat.pow 10 exponent.natAbs) 1
  else nearest digits (Nat.pow 10 exponent.natAbs)

end IndentTex.Decimal
