import IndentTex.Text.Basic

/-!
# JSON

Values of the JSON data format and a strict reader for them. An escape in a string may name half of
a character only. Such a string can be read over, but no text is known for it.
-/

namespace IndentTex

/-- A JSON value. The text of a number is kept as it is written, and the members of an object stand
in the order in which they are written. A string with half of a character has no text. -/
inductive Json where
  | null
  | bool (b : Bool)
  | number (digits : Text)
  | string (t : Option Text)
  | array (items : List Json)
  | object (members : List (Option Text × Json))

namespace Json

/-- The blanks that may stand between the parts of a value. -/
def isGap (c : Char) : Bool := c == ' ' || c == '\n' || c == '\t' || c == '\r'

/-- A text without the blanks at its beginning. -/
def skipGap (t : Text) : Text := t.dropWhile isGap

/-- The value of a hexadecimal digit. -/
def hexDigit? (c : Char) : Option Nat :=
  if '0' ≤ c && c ≤ '9' then some (c.toNat - '0'.toNat)
  else if 'a' ≤ c && c ≤ 'f' then some (c.toNat - 'a'.toNat + 10)
  else if 'A' ≤ c && c ≤ 'F' then some (c.toNat - 'A'.toNat + 10)
  else none

/-- The number written with the next four hexadecimal digits. -/
def hexUnit? : Text → Option (Nat × Text)
  | a :: b :: c :: d :: rest => do
    return ((((← hexDigit? a) * 16 + (← hexDigit? b)) * 16 + (← hexDigit? c)) * 16
      + (← hexDigit? d), rest)
  | _ => none

/-- The number in an escape for the second half of a character, and what follows it. -/
def lowHalf? : Text → Option (Nat × Text)
  | '\\' :: 'u' :: rest =>
    match hexUnit? rest with
    | some (low, rest) => if 0xdc00 ≤ low && low < 0xe000 then some (low, rest) else none
    | none => none
  | _ => none

/-- The character of an escape, just after its backslash, and what follows it. A character beyond the
first 65536 is written as two units; a unit of such a pair that stands alone names no character. -/
def escape? : Text → Option (Option Char × Text)
  | 'u' :: rest => do
    let (high, rest) ← hexUnit? rest
    if 0xd800 ≤ high && high < 0xdc00 then
      match lowHalf? rest with
      | some (low, rest) =>
        return (some (Char.ofNat (0x10000 + (high - 0xd800) * 0x400 + (low - 0xdc00))), rest)
      | none => return (none, rest)
    else if 0xdc00 ≤ high && high < 0xe000 then return (none, rest)
    else return (some (Char.ofNat high), rest)
  | c :: rest =>
    (List.lookup c [('"', '"'), ('\\', '\\'), ('/', '/'), ('b', '\x08'), ('f', '\x0c'),
      ('n', '\n'), ('r', '\r'), ('t', '\t')]).map (some ·, rest)
  | [] => none

/-- The rest of a string, just after its opening quote, and what follows it. -/
def string? : Nat → Text → Option (Option Text × Text)
  | n + 1, c :: rest =>
    if c == '"' then some (some [], rest)
    else if c == '\\' then do
      let (d, rest) ← escape? rest
      let (t, rest) ← string? n rest
      return (d.bind fun d => t.map (d :: ·), rest)
    else if c.toNat < 32 then none
    else do
      let (t, rest) ← string? n rest
      return (t.map (c :: ·), rest)
  | _, _ => none

/-- The decimal digits at the beginning of a text, at least one, and what follows them. -/
def digits? (t : Text) : Option (Text × Text) :=
  let digits := t.takeWhile Char.isDigit
  if digits.isEmpty then none else some (digits, t.dropWhile Char.isDigit)

/-- The whole part of a number: no digit follows a zero at its beginning. -/
def whole? (t : Text) : Option (Text × Text) := do
  let (digits, rest) ← digits? t
  if digits.head? == some '0' && 1 < digits.length then none else return (digits, rest)

/-- The decimal places of a number, if it has any. -/
def places? : Text → Option (Text × Text)
  | '.' :: rest => do
    let (digits, rest) ← digits? rest
    return ('.' :: digits, rest)
  | rest => some ([], rest)

/-- The exponent of a number, if it has one. -/
def exponent? : Text → Option (Text × Text)
  | c :: rest =>
    if c == 'e' || c == 'E' then do
      let (sign, rest) := match rest with
        | '+' :: rest => (['+'], rest)
        | '-' :: rest => (['-'], rest)
        | rest => ([], rest)
      let (digits, rest) ← digits? rest
      return (c :: sign ++ digits, rest)
    else some ([], c :: rest)
  | [] => some ([], [])

/-- A number and what follows it. -/
def number? (t : Text) : Option (Text × Text) := do
  let (sign, rest) := match t with
    | '-' :: rest => (['-'], rest)
    | rest => ([], rest)
  let (whole, rest) ← whole? rest
  let (places, rest) ← places? rest
  let (power, rest) ← exponent? rest
  return (sign ++ whole ++ places ++ power, rest)

mutual

/-- A value at the beginning of a text and what follows it. -/
def value? : Nat → Text → Option (Json × Text)
  | 0, _ => none
  | n + 1, t =>
    match skipGap t with
    | 'n' :: 'u' :: 'l' :: 'l' :: rest => some (.null, rest)
    | 't' :: 'r' :: 'u' :: 'e' :: rest => some (.bool true, rest)
    | 'f' :: 'a' :: 'l' :: 's' :: 'e' :: rest => some (.bool false, rest)
    | '"' :: rest => do
      let (s, rest) ← string? n rest
      return (.string s, rest)
    | '[' :: rest =>
      match skipGap rest with
      | ']' :: rest => some (.array [], rest)
      | rest => do
        let (items, rest) ← items? n rest
        return (.array items, rest)
    | '\x7b' :: rest =>
      match skipGap rest with
      | '\x7d' :: rest => some (.object [], rest)
      | rest => do
        let (members, rest) ← members? n rest
        return (.object members, rest)
    | rest => do
      let (digits, rest) ← number? rest
      return (.number digits, rest)

/-- One or more items up to and including the closing bracket. -/
def items? : Nat → Text → Option (List Json × Text)
  | 0, _ => none
  | n + 1, t => do
    let (item, rest) ← value? n t
    match skipGap rest with
    | ',' :: rest =>
      let (items, rest) ← items? n rest
      return (item :: items, rest)
    | ']' :: rest => return ([item], rest)
    | _ => none

/-- One or more members up to and including the closing brace. -/
def members? : Nat → Text → Option (List (Option Text × Json) × Text)
  | 0, _ => none
  | n + 1, t =>
    match skipGap t with
    | '"' :: rest => do
      let (key, rest) ← string? n rest
      match skipGap rest with
      | ':' :: rest =>
        let (item, rest) ← value? n rest
        match skipGap rest with
        | ',' :: rest =>
          let (members, rest) ← members? n rest
          return ((key, item) :: members, rest)
        | '\x7d' :: rest => return ([(key, item)], rest)
        | _ => none
      | _ => none
    | _ => none

end

/-- The value that a whole text stands for. -/
def parse? (t : Text) : Option Json :=
  match value? (t.length + 1) t with
  | some (v, rest) => if (skipGap rest).isEmpty then some v else none
  | none => none

/-- One character inside a string: quotes, backslashes and control characters are escaped. -/
def escapeChar (c : Char) : Text :=
  if c = '"' then ['\\', '"']
  else if c = '\\' then ['\\', '\\']
  else if c = '\n' then ['\\', 'n']
  else if c = '\r' then ['\\', 'r']
  else if c = '\t' then ['\\', 't']
  else if c = '\x08' then ['\\', 'b']
  else if c = '\x0c' then ['\\', 'f']
  else if c.toNat < 32 then
    ['\\', 'u', '0', '0', Nat.digitChar (c.toNat / 16), Nat.digitChar (c.toNat % 16)]
  else [c]

/-- A string with its quotes. -/
def writeString (t : Text) : Text := '"' :: t.flatMap escapeChar ++ ['"']

/-- A newline is escaped. -/
theorem newline_notMem_escapeChar (c : Char) : '\n' ∉ escapeChar c := by
  unfold escapeChar
  by_cases hn : c = '\n'
  · simp [hn]
  · repeat' split
    all_goals simp [Ne.symm hn]

/-- No string has a newline. -/
theorem newline_notMem_writeString (t : Text) : '\n' ∉ writeString t := by
  simp [writeString, newline_notMem_escapeChar]

end Json

end IndentTex
