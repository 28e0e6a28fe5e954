import IndentTex.Simulation.Number

/-!
# Formatted output

What the shell prints for a text with escapes, and for a format with its arguments.
-/

namespace IndentTex.Simulation

/-- Whether a character is an octal digit. -/
def isOctal (c : Char) : Bool := Number.isDigitIn 8 c

/-- The byte with an octal number. -/
def octalByte (digits : Text) : Char := Char.ofNat (Number.ofDigits 8 digits % 256)

/-- The byte of an escape, just after its backslash, and what follows it. A backslash before any
other character stands for itself. -/
def escape : Text → Char × Text
  | [] => ('\\', [])
  | c :: rest =>
    if isOctal c then
      let digits := c :: (rest.take 2).takeWhile isOctal
      (octalByte digits, rest.drop (digits.length - 1))
    else
      match List.lookup c [('\\', '\\'), ('a', '\x07'), ('b', '\x08'), ('e', '\x1b'), ('f', '\x0c'),
        ('n', '\n'), ('r', '\r'), ('t', '\t'), ('v', '\x0b')] with
      | some d => (d, rest)
      | none => ('\\', c :: rest)

/-- A text with its escapes replaced, and whether one of them ended all output. An octal number may
begin with a zero of its own. -/
def unescape : Nat → Text → Text × Bool
  | n + 1, '\\' :: rest =>
    match rest with
    | 'c' :: _ => ([], true)
    | '0' :: rest =>
      let digits := (rest.take 3).takeWhile isOctal
      let (more, ended) := unescape n (rest.drop digits.length)
      (octalByte digits :: more, ended)
    | rest =>
      let (c, rest) := escape rest
      let (more, ended) := unescape n rest
      (c :: more, ended)
  | n + 1, c :: rest =>
    let (more, ended) := unescape n rest
    (c :: more, ended)
  | _, _ => ([], false)

/-- What is printed for words, with escapes replaced and a newline at the end unless it is left
out. -/
def echo : List Text → Text
  | ['-', 'n'] :: words => (unescaped words).1
  | words =>
    let (out, ended) := unescaped words
    if ended then out else out ++ ['\n']
where
  /-- The words with blanks between them, and whether an escape ended all output. -/
  unescaped (words : List Text) : Text × Bool :=
    let t := Text.joinWith [' '] words
    unescape (t.length + 1) t

/-- How a format prints one argument. -/
structure Directive where
  left : Bool
  zero : Bool
  plus : Bool
  blank : Bool
  alternate : Bool
  width : Nat
  precision : Option Nat
  conversion : Char

/-- The number that an argument must be, and whether it is one throughout. A quotation mark stands
before a character whose code is meant. -/
def numericArgument (clamp : Int → Int) : Text → Int × Bool
  | [] => (0, true)
  | c :: t =>
    if (c == '"' || c == '\x27') && !t.isEmpty then
      ((t.headD ' ').toNat, t.length == 1)
    else
      match Number.signed? Number.unsigned? (c :: t) with
      | some (n, rest) => (clamp n, rest.isEmpty && n == clamp n)
      | none => (0, false)

/-- An integer that is nearest among those without a sign, where a negative one counts from the
end. -/
def clampUnsigned (n : Int) : Int :=
  if n < -0xffffffffffffffff || 0xffffffffffffffff < n then 0xffffffffffffffff else n

/-- The number at the beginning of a text, or the next argument for a star, and what follows. -/
def amount (format : Text) (args : List Text) : Option Int × Text × List Text :=
  match format with
  | '*' :: rest => (some (numericArgument Number.clamp (args.headD [])).1, rest, args.drop 1)
  | format =>
    let digits := format.takeWhile Char.isDigit
    ((if digits.isEmpty then none else some (Number.ofDigits 10 digits : Int)),
      format.drop digits.length, args)

/-- The directive after a percent sign, what follows it, and the arguments left. -/
def directive? (format : Text) (args : List Text) : Option (Directive × Text × List Text) :=
  let isFlag (c : Char) : Bool := "#-+ 0".toList.contains c
  let flags := format.takeWhile isFlag
  let (width, rest, args) := amount (format.dropWhile isFlag) args
  let (precision, rest, args) : Option Int × Text × List Text := match rest with
    | '.' :: rest =>
      let (p, rest, args) := amount rest args
      (some (p.getD 0), rest, args)
    | rest => (none, rest, args)
  match rest with
  | c :: rest =>
    let w := width.getD 0
    some ({ left := flags.contains '-' || decide (w < 0), zero := flags.contains '0',
            plus := flags.contains '+', blank := flags.contains ' ',
            alternate := flags.contains '#', width := w.natAbs,
            precision := precision.bind fun p => if p < 0 then none else some p.toNat,
            conversion := c }, rest, args)
  | [] => none

namespace Directive

/-- A text filled up to the width of a directive. -/
def pad (d : Directive) (out : Text) : Text :=
  let fill := List.replicate (d.width - out.length) ' '
  if d.left then out ++ fill else fill ++ out

/-- A text cut to the precision of a directive. -/
def cut (d : Directive) (out : Text) : Text := d.precision.elim out out.take

/-- A number with its sign, filled up with zeros to the precision or the width. -/
def padNumber (d : Directive) (sign digits : Text) : Text :=
  let digits := if d.precision == some 0 && digits == ['0'] then [] else digits
  let least := match d.precision with
    | some p => p
    | none => if d.zero && !d.left then d.width - sign.length else 0
  d.pad (sign ++ List.replicate (least - digits.length) '0' ++ digits)

/-- The digits of a number without a sign, in a base. An alternate octal number begins with a zero,
and an alternate hexadecimal one has a mark before it. -/
def unsigned (d : Directive) (base : Nat) (mark : Text) (n : Nat) : Text :=
  let digits := Nat.toDigits base n
  let digits := if d.alternate && base == 8 && digits.head? != some '0' then '0' :: digits
    else digits
  d.padNumber (if d.alternate && n != 0 then mark else []) digits

end Directive

/-- The result of a conversion. -/
structure Converted where
  out : Text
  /-- Whether the argument has been fit for it. -/
  fit : Bool
  /-- Whether an escape ended all output. -/
  ended : Bool

/-- What a directive prints for an argument; there is nothing if its conversion is not known. -/
def Directive.convert? (d : Directive) (arg : Text) : Option Converted :=
  let signed := numericArgument Number.clamp arg
  let whole := numericArgument clampUnsigned arg
  let wrapped := (Int.emod whole.1 0x10000000000000000).toNat
  match d.conversion with
  | 's' => some ⟨d.pad (d.cut arg), true, false⟩
  | 'b' =>
    let (out, ended) := unescape (arg.length + 1) arg
    some ⟨d.pad (d.cut out), true, ended⟩
  | 'c' => some ⟨d.pad [arg.headD '\x00'], true, false⟩
  | 'd' | 'i' =>
    let sign := if signed.1 < 0 then ['-'] else if d.plus then ['+'] else if d.blank then [' ']
      else []
    some ⟨d.padNumber sign (Text.ofNat signed.1.natAbs), signed.2, false⟩
  | 'u' => some ⟨d.padNumber [] (Text.ofNat wrapped), whole.2, false⟩
  | 'o' => some ⟨d.unsigned 8 [] wrapped, whole.2, false⟩
  | 'x' => some ⟨d.unsigned 16 ['0', 'x'] wrapped, whole.2, false⟩
  | 'X' => some ⟨(d.unsigned 16 ['0', 'x'] wrapped).map Char.toUpper, whole.2, false⟩
  | _ => none

/-- What has become of a format. -/
structure Formatted where
  out : Text
  /-- The arguments that are left. -/
  args : List Text
  /-- Zero, or what went wrong. -/
  status : Nat
  /-- Whether nothing more is printed. -/
  ended : Bool

/-- Puts more output in front. -/
def Formatted.after (out : Text) (status : Nat) (f : Formatted) : Formatted :=
  { f with out := out ++ f.out, status := max status f.status }

/-- What one pass through a format prints. -/
def formatPass : Nat → Text → List Text → Formatted
  | n + 1, '\\' :: rest, args =>
    let (c, rest) := escape rest
    (formatPass n rest args).after [c] 0
  | n + 1, '%' :: '%' :: rest, args => (formatPass n rest args).after ['%'] 0
  | n + 1, '%' :: rest, args =>
    match directive? rest args with
    | none => ⟨[], args, 2, true⟩
    | some (d, rest, args) =>
      match d.convert? (args.headD []) with
      | none => ⟨[], args, 2, true⟩
      | some c =>
        let status := if c.fit then 0 else 1
        if c.ended then ⟨c.out, [], status, true⟩
        else (formatPass n rest (args.drop 1)).after c.out status
  | n + 1, c :: rest, args => (formatPass n rest args).after [c] 0
  | _, _, args => ⟨[], args, 0, false⟩

/-- What a format prints for its arguments. It is used again as long as it takes arguments and some
are left. -/
def formatAll (format : Text) : Nat → List Text → Formatted
  | 0, args => ⟨[], args, 0, true⟩
  | n + 1, args =>
    let f := formatPass (format.length + 1) format args
    if f.ended || f.args.isEmpty || f.args.length == args.length then f
    else (formatAll format n f.args).after f.out f.status

/-- What a format prints for its arguments. -/
def format (format : Text) (args : List Text) : Formatted := formatAll format (args.length + 1) args

end IndentTex.Simulation
