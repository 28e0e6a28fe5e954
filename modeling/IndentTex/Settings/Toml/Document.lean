import IndentTex.Settings.Toml.Scalar

/-!
# Documents of TOML

A document is a sequence of headers and of keys with values. A table may be defined only once, and
a key may be given only once.
-/

namespace IndentTex.Settings.Toml

/-- What stands under a key while a document is read. -/
inductive Node where
  | value (v : Value)
  /-- A table, whether only its parts have been named so far, and whether by keys with points. -/
  | table (isOpen dotted : Bool) (entries : List (Text × Node))
  /-- A list of tables, the last one first. -/
  | tables (last : List (Text × Node)) (before : List (List (Text × Node)))

/-- The entries of a table while a document is read. -/
abbrev Nodes := List (Text × Node)

/-- The entries with a new node for a key. -/
def putNode (es : Nodes) (key : Text) (node : Node) : Nodes :=
  if es.any (·.1 = key) then es.map fun e => if e.1 = key then (key, node) else e
  else es ++ [(key, node)]

/-- Changes the table that a path leads to. Tables on the way are made if they are missing; a path
in a key with points may lead only through tables that are still open. The change is told whether
the table was made by a key with points. -/
def descend (dotted : Bool) (change : Bool → Nodes → Option Nodes) :
    List Text → (isDotted : Bool) → Nodes → Option Nodes
  | [], isDotted, es => change isDotted es
  | key :: path, _, es =>
    match es.lookup key with
    | none => do
      return putNode es key (.table true dotted (← descend dotted change path dotted []))
    | some (.value _) => none
    | some (.tables last before) => do
      return putNode es key (.tables (← descend dotted change path false last) before)
    | some (.table isOpen isDotted inner) =>
      if dotted && !isOpen then none
      else do
        return putNode es key (.table isOpen isDotted (← descend dotted change path isDotted inner))

/-- Gives a key of a table its value. -/
def giveValue (path : List Text) (key : Text) (v : Value) : Nodes → Option Nodes :=
  descend true (fun isDotted es =>
    if isDotted == path.isEmpty then none
    else if es.any (·.1 = key) then none
    else some (es ++ [(key, .value v)])) path false

/-- Defines a table. -/
def openTable (path : List Text) (key : Text) : Nodes → Option Nodes :=
  descend false (fun _ es =>
    match es.lookup key with
    | none => some (putNode es key (.table false false []))
    | some (.table true false inner) => some (putNode es key (.table false false inner))
    | _ => none) path false

/-- Adds a table to a list of tables. -/
def addTable (path : List Text) (key : Text) : Nodes → Option Nodes :=
  descend false (fun _ es =>
    match es.lookup key with
    | none => some (putNode es key (.tables [] []))
    | some (.tables last before) => some (putNode es key (.tables [] (last :: before)))
    | _ => none) path false

/-- The key that marks a table as a moment in the form of a string. -/
def momentKey : Text := "$__toml_private_datetime".toList

/-- The value that the entries of a table stand for. If the first key is the mark of a moment, the
string there is the value, and it must be a moment. -/
def ofEntries? : Entries → Option Value
  | (key, v) :: es =>
    if key = momentKey then
      match v with
      | .string t => (moment? .wide t).map .string
      | _ => none
    else some (.table ((key, v) :: es))
  | [] => some (.table [])

/-- The value that a node stands for. -/
def Node.toValue? : Nat → Node → Option Value
  | _, .value v => some v
  | 0, _ => none
  | n + 1, .table _ _ es => do
    ofEntries? (← es.mapM fun e => (toValue? n e.2).map (e.1, ·))
  | n + 1, .tables last before => do
    return .list (← (last :: before).reverse.mapM fun es => do
      ofEntries? (← es.mapM fun e => (toValue? n e.2).map (e.1, ·)))

/-- What follows blanks. -/
def skipBlanks (t : Text) : Text := t.dropWhile fun c => c == ' ' || c == '\t'

/-- What follows a comment, if there is one. -/
def skipComment? : Text → Option Text
  | '#' :: rest =>
    match rest.dropWhile isPlain with
    | [] => some []
    | rest => if (afterNewline? rest).isSome then some rest else none
  | rest => some rest

/-- What follows blanks, comments and line ends. -/
def skipLines? : Nat → Text → Option Text
  | 0, t => some t
  | n + 1, t => do
    let rest ← skipComment? (skipBlanks t)
    match afterNewline? rest with
    | some rest => skipLines? n rest
    | none => return rest

/-- Characters of keys without quotes. -/
def isBareKeyChar (c : Char) : Bool := c.isAlphanum || c == '_' || c == '-'

/-- A single key, and what follows it. -/
def simpleKey? (t : Text) : Option (Text × Text) :=
  let bare := t.takeWhile isBareKeyChar
  if bare.isEmpty then line? t else some (bare, t.dropWhile isBareKeyChar)

/-- How deep lists and tables in braces may be nested, and how many parts a key may have. -/
def maxDepth : Nat := 79

/-- The parts of a key with points between them, and what follows it. -/
def keyParts? : Nat → Text → Option (List Text × Text)
  | 0, _ => none
  | n + 1, t => do
    let (first, rest) ← simpleKey? (skipBlanks t)
    match skipBlanks rest with
    | '.' :: rest =>
      let (parts, rest) ← keyParts? n rest
      return (first :: parts, rest)
    | rest => return ([first], rest)

/-- A key of one or more parts, and what follows it. -/
def key? (t : Text) : Option (List Text × Text) :=
  (keyParts? t.length t).filter fun r => r.1.length ≤ maxDepth

/-- The parts of a key but the last, and the last one. -/
def splitKey (parts : List Text) : List Text × Text := (parts.dropLast, parts.getLast?.getD [])

mutual

/-- A value, and what follows it. `room` is how much deeper it may be nested. -/
def value? : Nat → (room : Nat) → Text → Option (Value × Text)
  | 0, _, _ => none
  | n + 1, room, t =>
    match t, room with
    | '[' :: _, 0 => none
    | '\x7b' :: _, 0 => none
    | '[' :: rest, room + 1 => items? n room rest
    | '\x7b' :: rest, room + 1 =>
      match skipBlanks rest with
      | '\x7d' :: rest => some (.table [], rest)
      | rest => pairs? n room [] rest
    | t, _ =>
      if t.head? == some '"' || t.head? == some '\x27' then
        (string? t).map fun r => (.string r.1, r.2)
      else
        let length := scalarLength t
        (scalar? (t.take length)).map (·, t.drop length)

/-- The items of a list up to its closing bracket, and what follows it. -/
def items? : Nat → (room : Nat) → Text → Option (Value × Text)
  | 0, _, _ => none
  | n + 1, room, t => do
    match ← skipLines? t.length t with
    | ']' :: rest => return (.list [], rest)
    | rest =>
      let (v, rest) ← value? n room rest
      match ← skipLines? rest.length rest with
      | ',' :: rest =>
        match ← items? n room rest with
        | (.list vs, rest) => return (.list (v :: vs), rest)
        | _ => none
      | ']' :: rest => return (.list [v], rest)
      | _ => none

/-- The keys and values of a table in braces up to the closing one, and what follows it. -/
def pairs? : Nat → (room : Nat) → Nodes → Text → Option (Value × Text)
  | 0, _, _, _ => none
  | n + 1, room, es, t => do
    let (key, rest) ← key? t
    let (path, last) := splitKey key
    match rest with
    | '=' :: rest =>
      let (v, rest) ← value? n room (skipBlanks rest)
      let es ← giveValue path last v es
      match skipBlanks rest with
      | ',' :: rest => pairs? n room es rest
      | '\x7d' :: rest => return (← (Node.table false false es).toValue? (t.length + 1), rest)
      | _ => none
    | _ => none

end

/-- What follows the end of a line, which may hold blanks and a comment; nothing may follow at the
end of the document. -/
def lineEnd? (t : Text) : Option Text := do
  match ← skipComment? (skipBlanks t) with
  | [] => return []
  | rest => afterNewline? rest

/-- A header with its brackets, and what follows it. -/
def header? (opening closing : Text) (t : Text) : Option (List Text × Text) := do
  let (key, rest) ← key? (← Text.dropStart? opening t)
  return (key, ← Text.dropStart? closing rest)

/-- Reads the lines of a document under the table that the last header named. -/
def lines? : Nat → (current : List Text) → Nodes → Text → Option Nodes
  | 0, _, es, t => if t.isEmpty then some es else none
  | n + 1, current, es, t =>
    match skipBlanks t with
    | [] => some es
    | '#' :: rest => do lines? n current es (← lineEnd? ('#' :: rest))
    | '[' :: '[' :: rest => do
      let (key, rest) ← header? ['[', '['] [']', ']'] ('[' :: '[' :: rest)
      let (path, last) := splitKey key
      lines? n key (← addTable path last es) (← lineEnd? rest)
    | '[' :: rest => do
      let (key, rest) ← header? ['['] [']'] ('[' :: rest)
      let (path, last) := splitKey key
      lines? n key (← openTable path last es) (← lineEnd? rest)
    | rest =>
      match afterNewline? rest with
      | some rest => lines? n current es rest
      | none => do
        let (key, rest) ← key? rest
        let (path, last) := splitKey key
        let (v, rest) ← value? rest.length maxDepth (skipBlanks (← Text.dropStart? ['='] rest))
        let es ← descend false (fun _ inner => giveValue path last v inner) current false es
        lines? n current es (← lineEnd? rest)

/-- The entries of a document. A byte order mark at its beginning is skipped. -/
def parse? (t : Text) : Option Entries := do
  let t := (Text.dropStart? ['\ufeff'] t).getD t
  let es ← lines? (t.length + 1) [] [] t
  match ← (Node.table false false es).toValue? (t.length + 1) with
  | .table entries => return entries
  | _ => none

end IndentTex.Settings.Toml
