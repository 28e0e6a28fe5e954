import IndentTex.Json
import IndentTex.Settings.Value

/-!
# Scalars of TOML

Strings, numbers, dates and times of the TOML data format.
-/

namespace IndentTex.Settings.Toml

/-- Characters that may stand in comments and in strings of one line. -/
def isPlain (c : Char) : Bool := c == '\t' || (32 ≤ c.toNat && c != '\x7f')

/-- What follows a line end at the beginning of a text. -/
def afterNewline? : Text → Option Text
  | '\n' :: rest => some rest
  | '\r' :: '\n' :: rest => some rest
  | _ => none

/-- The number written with the next `n` hexadecimal digits. -/
def hexNumber? (n : Nat) (t : Text) : Option (Nat × Text) :=
  let digits := (t.take n).filterMap Json.hexDigit?
  if digits.length = n then some (digits.foldl (fun k d => 16 * k + d) 0, t.drop n) else none

/-- The character of an escape, just after its backslash. -/
def escape? : Text → Option (Char × Text)
  | [] => none
  | c :: rest =>
    let scalar (n : Nat) : Option (Char × Text) := do
      let (value, rest) ← hexNumber? n rest
      if value < 0xd800 || (0xe000 ≤ value && value < 0x110000) then
        return (Char.ofNat value, rest)
      else none
    if c == 'u' then scalar 4
    else if c == 'U' then scalar 8
    else
      (List.lookup c [('b', '\x08'), ('t', '\t'), ('n', '\n'), ('f', '\x0c'), ('r', '\r'),
        ('"', '"'), ('\\', '\\')]).map (·, rest)

/-- The rest of a string of one line, and what follows it. -/
def basic? : Nat → Text → Option (Text × Text)
  | n + 1, c :: rest =>
    if c == '"' then some ([], rest)
    else if c == '\\' then do
      let (d, rest) ← escape? rest
      (basic? n rest).map fun r => (d :: r.1, r.2)
    else if isPlain c then (basic? n rest).map fun r => (c :: r.1, r.2)
    else none
  | _, _ => none

/-- The rest of a literal string of one line, and what follows it. -/
def literal? : Text → Option (Text × Text)
  | [] => none
  | c :: rest =>
    if c == '\x27' then some ([], rest)
    else if isPlain c then (literal? rest).map fun r => (c :: r.1, r.2)
    else none

/-- What follows blanks and line ends. -/
def skipGaps : Nat → Text → Text
  | n + 1, c :: rest =>
    if c == ' ' || c == '\t' then skipGaps n rest
    else match afterNewline? (c :: rest) with
      | some rest => skipGaps n rest
      | none => c :: rest
  | _, t => t

/-- What follows a backslash at the end of a line: the line end and all blanks after it. -/
def afterJoin? (t : Text) : Option Text :=
  (afterNewline? (t.dropWhile fun c => c == ' ' || c == '\t')).map fun rest =>
    skipGaps rest.length rest

/-- The rest of a string of several lines between three quotes, and what follows it. Up to two more
quotes may stand before the closing ones. -/
def multiline? (quote : Char) (escapes : Bool) : Nat → Text → Option (Text × Text)
  | n + 1, c :: rest =>
    if c == quote then
      let quotes := ((c :: rest).take 5).takeWhile (· == quote)
      if 3 ≤ quotes.length then
        some (quotes.drop 3, (c :: rest).drop quotes.length)
      else (multiline? quote escapes n rest).map fun r => (c :: r.1, r.2)
    else if escapes && c == '\\' then
      match afterJoin? rest with
      | some rest => multiline? quote escapes n rest
      | none => do
        let (d, rest) ← escape? rest
        (multiline? quote escapes n rest).map fun r => (d :: r.1, r.2)
    else match afterNewline? (c :: rest) with
      | some rest => (multiline? quote escapes n rest).map fun r => ('\n' :: r.1, r.2)
      | none =>
        if isPlain c then (multiline? quote escapes n rest).map fun r => (c :: r.1, r.2) else none
  | _, _ => none

/-- A text without the line end at its beginning, if it has one. -/
def dropNewline (t : Text) : Text := (afterNewline? t).getD t

/-- A string of one line in either form of quotes, and what follows it. -/
def line? : Text → Option (Text × Text)
  | '"' :: rest => basic? rest.length rest
  | '\x27' :: rest => literal? rest
  | _ => none

/-- A string in any form, and what follows it. -/
def string? (t : Text) : Option (Text × Text) :=
  match t with
  | '"' :: '"' :: '"' :: rest => multiline? '"' true (rest.length + 1) (dropNewline rest)
  | '\x27' :: '\x27' :: '\x27' :: rest =>
    multiline? '\x27' false (rest.length + 1) (dropNewline rest)
  | t => line? t

/-- Digits without the underscores between them. There must be at least one digit, and an underscore
must stand between two. -/
def digits? (isDigit : Char → Bool) (t : Text) : Option Text :=
  let rec go (afterDigit : Bool) : Text → Option Text
    | [] => if afterDigit then some [] else none
    | c :: cs =>
      if isDigit c then (go true cs).map (c :: ·)
      else if c == '_' && afterDigit then go false cs
      else none
  go false t

/-- The number that digits stand for in a base. -/
def numberOf (base : Nat) (digits : Text) : Nat :=
  digits.foldl (fun k c => base * k + (Json.hexDigit? c).getD 0) 0

/-- The sign at the beginning of a number, and what follows it. -/
def signed : Text → Bool × Text
  | '-' :: rest => (true, rest)
  | '+' :: rest => (false, rest)
  | rest => (false, rest)

/-- Decimal digits of a whole number: no further digit follows a zero at the beginning. -/
def whole? (t : Text) : Option Text := do
  let digits ← digits? Char.isDigit t
  if digits.head? == some '0' && 1 < t.length then none else return digits

/-- The integer that a text stands for, within 64 bits. -/
def integer? (t : Text) : Option Int :=
  let inRange (n : Int) : Option Int :=
    if -0x8000000000000000 ≤ n && n < 0x8000000000000000 then some n else none
  match t with
  | '0' :: 'x' :: rest =>
    (digits? (fun c => (Json.hexDigit? c).isSome) rest).bind fun d => inRange (numberOf 16 d)
  | '0' :: 'o' :: rest =>
    (digits? (fun c => '0' ≤ c && c ≤ '7') rest).bind fun d => inRange (numberOf 8 d)
  | '0' :: 'b' :: rest =>
    (digits? (fun c => c == '0' || c == '1') rest).bind fun d => inRange (numberOf 2 d)
  | t =>
    let (negative, rest) := signed t
    (whole? rest).bind fun d =>
      let n : Int := numberOf 10 d
      inRange (if negative then -n else n)

/-- The floating-point number that a text stands for. A positive one must not be too large. -/
def float? (t : Text) : Option Float := do
  let (negative, rest) := signed t
  let ofMagnitude (x : Float) : Float := if negative then -x else x
  if rest = "inf".toList then return ofMagnitude (1.0 / 0.0)
  else if rest = "nan".toList then return 0.0 / 0.0
  else
    let isMark (c : Char) : Bool := c == 'e' || c == 'E'
    let mantissa := rest.takeWhile fun c => !isMark c
    let power := (rest.dropWhile fun c => !isMark c).drop 1
    let hasPower := rest.any isMark
    let wholePart ← whole? (mantissa.takeWhile (· != '.'))
    let places ← if mantissa.contains '.' then
        digits? Char.isDigit ((mantissa.dropWhile (· != '.')).drop 1)
      else some []
    if !hasPower && places.isEmpty then none
    else
      let (powerNegative, powerDigits) := signed power
      let powerDigits ← if hasPower then digits? Char.isDigit powerDigits else some ['0']
      let k : Int := numberOf 10 powerDigits
      let exponent := (if powerNegative then -k else k) - places.length
      let x := Decimal.ofDecimal (numberOf 10 (wholePart ++ places)) exponent
      if x.isInf && !negative then none else return ofMagnitude x

/-- The number that a fixed count of digits at the beginning of a text stands for, within bounds. -/
def part? (count low high : Nat) (t : Text) : Option (Nat × Text) :=
  let digits := (t.take count).takeWhile Char.isDigit
  let n := numberOf 10 digits
  if digits.length = count && low ≤ n && n ≤ high then some (n, t.drop count) else none

/-- The number of days of a month. -/
def daysIn (year month : Nat) : Nat :=
  if month = 2 then
    if year % 4 = 0 && (year % 100 ≠ 0 || year % 400 = 0) then 29 else 28
  else if [4, 6, 9, 11].contains month then 30
  else 31

/-- The date at the beginning of a text, as it is written, and what follows it. -/
def date? (t : Text) : Option (Text × Text) := do
  let (year, rest) ← part? 4 0 9999 t
  let (month, rest) ← part? 2 1 12 (← Text.dropStart? ['-'] rest)
  let (_, rest) ← part? 2 1 (daysIn year month) (← Text.dropStart? ['-'] rest)
  return (t.take 10, rest)

/-- How large the parts of a moment may be. -/
structure MomentBounds where
  hour : Nat
  /-- Hours and minutes of the difference to universal time. -/
  zoneHour : Nat
  zoneMinute : Nat

/-- The bounds for a moment that is written as such. -/
def MomentBounds.plain : MomentBounds := ⟨23, 23, 59⟩

/-- The bounds for a moment that is given as a string. Its day may end with hour 24, and only the
whole difference to universal time is limited. -/
def MomentBounds.wide : MomentBounds := ⟨24, 99, 99⟩

/-- The time of day at the beginning of a text, with nine decimal places of a second at most and no
zeros at the end of them, and what follows it. -/
def time? (bounds : MomentBounds) (t : Text) : Option (Text × Text) := do
  let (_, rest) ← part? 2 0 bounds.hour t
  let (_, rest) ← part? 2 0 59 (← Text.dropStart? [':'] rest)
  let (_, rest) ← part? 2 0 60 (← Text.dropStart? [':'] rest)
  match rest with
  | '.' :: rest =>
    let digits := rest.takeWhile Char.isDigit
    if digits.isEmpty then none
    else
      let kept := ((digits.take 9).reverse.dropWhile (· == '0')).reverse
      return (t.take 8 ++ (if kept.isEmpty then [] else '.' :: kept), rest.dropWhile Char.isDigit)
  | rest => return (t.take 8, rest)

/-- A number below 100 in two digits. -/
def twoDigits (n : Nat) : Text := [Nat.digitChar (n / 10), Nat.digitChar (n % 10)]

/-- A difference to universal time of some minutes. No difference has a plus sign. -/
def writeZone (negative : Bool) (minutes : Nat) : Text :=
  (if negative && minutes != 0 then '-' else '+') :: twoDigits (minutes / 60) ++
    ':' :: twoDigits (minutes % 60)

/-- The difference to universal time at the beginning of a text, if there is one, and what follows
it. It is a day at most. -/
def zone? (bounds : MomentBounds) (t : Text) : Option (Text × Text) :=
  match t with
  | [] => some ([], [])
  | c :: rest =>
    if c == 'Z' || c == 'z' then some (['Z'], rest)
    else if c == '+' || c == '-' then do
      let (hours, rest) ← part? 2 0 bounds.zoneHour rest
      let (minutes, rest) ← part? 2 0 bounds.zoneMinute (← Text.dropStart? [':'] rest)
      let total := 60 * hours + minutes
      if 24 * 60 < total then none else return (writeZone (c == '-') total, rest)
    else none

/-- The date, the time of day, or both, that a text stands for, in their usual form. -/
def moment? (bounds : MomentBounds) (t : Text) : Option Text :=
  match date? t with
  | some (date, []) => some date
  | some (date, c :: rest) =>
    if c == 'T' || c == 't' || c == ' ' then do
      let (time, rest) ← time? bounds rest
      let (zone, rest) ← zone? bounds rest
      if rest.isEmpty then return date ++ 'T' :: time ++ zone else none
    else none
  | none =>
    match time? bounds t with
    | some (time, []) => some time
    | _ => none

/-- The characters of scalars without quotes. -/
def isScalarChar (c : Char) : Bool := c.isAlphanum || "+-_.:".toList.contains c

/-- The length of the scalar without quotes at the beginning of a text. A date and a time with a
blank between them are one scalar. -/
def scalarLength (t : Text) : Nat :=
  let first := t.takeWhile isScalarChar
  match t.drop first.length with
  | ' ' :: rest =>
    let second := rest.takeWhile isScalarChar
    if (date? first).any (·.2.isEmpty) && (second.take 2).all Char.isDigit
        && (second.drop 2).head? == some ':' then
      first.length + 1 + second.length
    else first.length
  | _ => first.length

/-- The value that a scalar without quotes stands for. -/
def scalar? (t : Text) : Option Value :=
  if t = "true".toList then some (.boolean true)
  else if t = "false".toList then some (.boolean false)
  else match moment? .plain t with
    | some m => some (.string m)
    | none =>
      match integer? t with
      | some n => some (.integer n)
      | none => (float? t).map .float

end IndentTex.Settings.Toml
