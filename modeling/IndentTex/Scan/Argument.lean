import IndentTex.Scan.State

/-!
# Reading control sequences and arguments

A control sequence is a backslash followed by a run of alphabetic characters or by one other
character. Arguments stand in braces or brackets. Inside them groups, control sequences and
comments are kept whole, and registered commands are expanded; raw arguments are read literally.
-/

namespace IndentTex.Scan

variable {σ : Type}

/-- Reads the name of a control sequence, just after its backslash (`parse_control_name`). -/
def controlName : Scan σ Text := do
  match ← peek with
  | none => raise .loneBackslash
  | some c =>
    let name ← skipWhile isAlphabetic
    if name = [] then
      skip 1
      return [c]
    else
      return name

/-- Reads a comment to the end of its line, just after its percent sign (`parse_comment`). -/
def comment : Scan σ Text := return '%' :: (← skipLine)

/-- The longest text of literal characters and backslash pairs up to the first `close` that is not
part of a pair, without `close` itself. There is none if the text ends before `close` or, where
`oneLine` is set, if the line does. -/
def rawText? (close : Char) (oneLine : Bool) : Text → Option Text
  | [] => none
  | '\\' :: c :: cs =>
    if oneLine ∧ c = '\n' then none else (rawText? close oneLine cs).map ('\\' :: c :: ·)
  | c :: cs =>
    if c = '\\' then none
    else if c = close then some []
    else if oneLine ∧ c = '\n' then none
    else (rawText? close oneLine cs).map (c :: ·)

/-- Reads literally up to and including the first `close` without a backslash before it
(`scan_raw`). If there is none, nothing is read. -/
def raw (close : Char) (oneLine : Bool) : Scan σ (Option Text) := do
  match rawText? close oneLine (← mark).rest with
  | none => return none
  | some t =>
    skip (t.length + 1)
    return some t

/-- Reads the inside of raw braces of the control sequence `name`, and the closing brace. -/
def rawGroup (name : Text) : Scan σ Text := do
  match ← raw '\x7d' false with
  | some content => return content
  | none =>
    let _ ← skipWhile fun _ => true
    raise (.unclosedArgument name)

/-- Goes back to `start` if a probe finds nothing. -/
def orBack (start : Cursor) (probe : Scan σ (Option Text)) : Scan σ (Option Text) := do
  match ← probe with
  | some content => return some content
  | none =>
    goTo start
    return none

/-- Reads an argument in brackets, if there is one that closes on this line (`parse_optional_arg`).
Otherwise nothing is read. -/
def optionalArgument (inner : Level σ) (isRaw : Bool) : Scan σ (Option Text) := do
  let start ← mark
  let _ ← skipBlanks
  if (← peek) = some '[' then
    skip 1
    orBack start (if isRaw then raw ']' true else inner.brackets)
  else
    goTo start
    return none

/-- Reads an argument in braces of the control sequence `name` (`parse_required_arg`). -/
def requiredArgument (inner : Level σ) (name : Text) (isRaw : Bool) : Scan σ Text := do
  let _ ← skipBlanks
  match ← peek with
  | none => raise (.argumentAtEnd name)
  | some c =>
    if c = '\x7b' then
      skip 1
      if isRaw then rawGroup name else inner.group '\x7d'
    else
      raise (.missingArgument name)

/-- Reads an argument for a slot. -/
def argument (inner : Level σ) (name : Text) (slot : Slot) : Scan σ (Option Text) :=
  if slot.optional then optionalArgument inner slot.raw
  else some <$> requiredArgument inner name slot.raw

/-- Reads an argument for every slot, in order (`parse_args`). -/
def arguments (inner : Level σ) (name : Text) : Params → Scan σ (List (Option Text))
  | [] => return []
  | slot :: slots => do
    let value ← argument inner name slot
    return value :: (← arguments inner name slots)

/-- Reads the arguments of a registered command and gives its output (`parse_custom_command`). -/
def customCommand (inner : Level σ) (c : Command) : Scan σ Text := do
  produce (c.generate (← arguments inner c.name c.params))

/-- Reads a control sequence inside a group or argument, just after its backslash
(`parse_arg_control`). Registered commands are expanded; of all others the name is copied. -/
def argumentControl (S : Setup σ) (inner : Level σ) : Scan σ Text := do
  let name ← controlName
  match S.registry.command? name with
  | some c => customCommand inner c
  | none => return Markup.control name

/-- The characters that end a plain run of text in a group. -/
def endsGroupRun (close c : Char) : Bool :=
  c = close || c = '\x7b' || c = '\x7d' || c = '\\' || c = '%'

/-- Reads a group up to and including `close` (`scan_group`). -/
def groupLoop (S : Setup σ) (inner : Level σ) (close : Char) : Nat → Scan σ Text
  | 0 => raise (.unclosedGroup close)
  | n + 1 => do
    let plain ← skipUntil (endsGroupRun close)
    match ← peek with
    | none => raise (.unclosedGroup close)
    | some c =>
      if c = close then
        skip 1
        return plain
      else if c = '\x7d' then
        raise .unexpectedBrace
      else if c = '\x7b' then
        skip 1
        let body ← inner.group '\x7d'
        return plain ++ '\x7b' :: body ++ '\x7d' :: (← groupLoop S inner close n)
      else if c = '\\' then
        skip 1
        let control ← argumentControl S inner
        return plain ++ control ++ (← groupLoop S inner close n)
      else if c = '%' then
        skip 1
        let note ← comment
        return plain ++ note ++ (← groupLoop S inner close n)
      else
        raise .internal

/-- The characters that end a plain run of text in brackets. -/
def endsBracketRun (c : Char) : Bool :=
  c = '\n' || c = '\x7b' || c = '\x7d' || c = '\\' || c = '[' || c = ']' || c = '%'

/-- Reads the inside of brackets up to and including the closing one; there is none if the line or a
comment comes first (`scan_optional_argstr`). -/
def bracketLoop (S : Setup σ) (inner : Level σ) : Nat → Scan σ (Option Text)
  | 0 => return none
  | n + 1 => do
    let plain ← skipUntil endsBracketRun
    match ← peek with
    | none => return none
    | some c =>
      if c = '\n' ∨ c = '%' then
        return none
      else if c = ']' then
        skip 1
        return some plain
      else if c = '\x7d' then
        raise .unexpectedBrace
      else if c = '\x7b' then
        skip 1
        let body ← inner.group '\x7d'
        let more ← bracketLoop S inner n
        return more.map fun t => plain ++ '\x7b' :: body ++ '\x7d' :: t
      else if c = '[' then
        skip 1
        let body ← inner.group ']'
        let more ← bracketLoop S inner n
        return more.map fun t => plain ++ '[' :: body ++ ']' :: t
      else if c = '\\' then
        skip 1
        let control ← argumentControl S inner
        let more ← bracketLoop S inner n
        return more.map fun t => plain ++ control ++ t
      else
        raise .internal

/-- Reads the inside of brackets up to and including the closing one (`parse_optional_argstr`). If
there is none, nothing is read. -/
def bracketText (S : Setup σ) (inner : Level σ) : Scan σ (Option Text) := do
  orBack (← mark) (bounded (bracketLoop S inner))

/-- Reads the arguments that follow a control sequence without a definition, as they are written.
Horizontal blanks may stand before each of them. -/
def argumentTextLoop (inner : Level σ) : Nat → Scan σ Text
  | 0 => return []
  | n + 1 => do
    let before ← mark
    let space ← skipBlanks
    let next ← peek
    if next = some '\x7b' then
      skip 1
      let body ← inner.group '\x7d'
      return space ++ '\x7b' :: body ++ '\x7d' :: (← argumentTextLoop inner n)
    else if next = some '[' then
      skip 1
      match ← inner.brackets with
      | some body => return space ++ '[' :: body ++ ']' :: (← argumentTextLoop inner n)
      | none =>
        goTo before
        return []
    else
      goTo before
      return []

/-- Reads the arguments that follow a control sequence without a definition (`parse_argstr`). -/
def argumentText (inner : Level σ) : Scan σ Text := bounded (argumentTextLoop inner)

end IndentTex.Scan
