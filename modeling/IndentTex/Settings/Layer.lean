import IndentTex.Settings.Value

/-!
# Layers of settings

Settings are put over each other key by key. Keys are case-insensitive. A table is merged into what
is there, and everything else replaces it. A single value can also be set by its path.
-/

namespace IndentTex.Settings

/-- The way to a value from the outermost table: keys and places in lists. -/
inductive Step where
  | key (name : Text)
  | place (index : Int)
  deriving DecidableEq, Repr

/-- A path, which starts with a key. -/
structure Path where
  first : Text
  steps : List Step
  deriving DecidableEq, Repr

/-- The characters of keys in paths. A space is one of them. -/
def isKeyChar (c : Char) : Bool := c.isAlphanum || c == '_' || c == '-' || c == ' '

/-- The blanks that may stand around the number of a place. -/
def isPlaceBlank (c : Char) : Bool := c == ' ' || c == '\t'

/-- The number of a place and what follows its closing bracket, just after the opening one. The
number must fit into 64 bits. -/
def place? (t : Text) : Option (Int × Text) :=
  let t := t.dropWhile isPlaceBlank
  let (negative, t) := match t with
    | '-' :: t => (true, t)
    | t => (false, t)
  let digits := t.takeWhile Char.isDigit
  let magnitude : Int := digits.foldl (fun k c => 10 * k + (c.toNat - '0'.toNat)) 0
  let index := if negative then -magnitude else magnitude
  match (t.dropWhile Char.isDigit).dropWhile isPlaceBlank with
  | ']' :: rest =>
    if digits.isEmpty || index < -0x8000000000000000 || 0x8000000000000000 ≤ index then none
    else some (index, rest)
  | _ => none

/-- The steps written at the beginning of a text, which must be used up. -/
def steps? : Nat → Text → Option (List Step)
  | _, [] => some []
  | 0, _ => none
  | n + 1, '.' :: rest =>
    let name := rest.takeWhile isKeyChar
    if name.isEmpty then none
    else (steps? n (rest.dropWhile isKeyChar)).map (.key (name.map Char.toLower) :: ·)
  | n + 1, '[' :: rest =>
    match place? rest with
    | some (index, rest) => (steps? n rest).map (.place index :: ·)
    | none => none
  | _, _ => none

/-- The path that a text stands for: keys separated by points, and places in brackets. -/
def Path.parse? (t : Text) : Option Path :=
  let first := t.takeWhile isKeyChar
  if first.isEmpty then none
  else (steps? t.length (t.dropWhile isKeyChar)).map (⟨first.map Char.toLower, ·⟩)

namespace Value

/-- The entries with a new value for a key. -/
def putEntry (entries : Entries) (key : Text) (v : Value) : Entries :=
  if entries.any (·.1 = key) then entries.map fun e => if e.1 = key then (key, v) else e
  else entries ++ [(key, v)]

/-- The entries of a table; anything else has none. -/
def entries : Value → Entries
  | table es => es
  | _ => []

/-- The items of a list; anything else has none. -/
def items : Value → List Value
  | list vs => vs
  | _ => []

/-- A table, given or of its own, with a value put over the one of a key. Of an incoming table every
entry is put over the entry there, and an empty one changes nothing. -/
def merged : Nat → (root : Value) → (key : Text) → (incoming : Value) → Value
  | 0, root, _, _ => root
  | n + 1, root, key, incoming =>
    let key := key.map Char.toLower
    let es := root.entries
    match incoming with
    | table inner =>
      let target := (es.lookup key).getD (table [])
      table (putEntry es key (inner.foldl (fun v e => merged n v e.1 e.2) target))
    | v => table (putEntry es key v)

/-- How deep tables can be nested in a value. -/
def depth : Value → Nat
  | table es => (es.attach.map fun ⟨e, _⟩ => depth e.2).foldl max 0 + 1
  | _ => 0
decreasing_by
  have h : sizeOf e < sizeOf es := List.sizeOf_lt_of_mem ‹_›
  cases e
  simp_all
  omega

/-- A table with a value put over the one of a key. -/
def put (root : Value) (key : Text) (v : Value) : Value := merged (depth v + 1) root key v

/-- The place in a list of the given length that a number stands for. Negative numbers count from
the end. -/
def placeOf (index : Int) (length : Nat) : Nat :=
  if 0 ≤ index then index.toNat else length - index.natAbs

/-- A list extended to hold a place. -/
def extended (vs : List Value) (place : Nat) : List Value :=
  vs ++ List.replicate (place + 1 - vs.length) nothing

/-- Sets the value that is some steps away from an entry of a table. What is in the way is replaced
by a table or a list. -/
def setAt (root : Value) (key : Text) (v : Value) : List Step → Value
  | [] => put root key v
  | step :: steps =>
    let es := root.entries
    let old := (es.lookup key).getD nothing
    table (putEntry es key (below old v step steps))
where
  /-- The value below an entry after the change. -/
  below (old v : Value) : Step → List Step → Value
    | .key name, [] => put old name v
    | .key name, next :: steps =>
      let es := old.entries
      table (putEntry es name (below ((es.lookup name).getD nothing) v next steps))
    | .place i, steps =>
      let vs := old.items
      let place := placeOf i vs.length
      let vs := extended vs place
      match steps with
      | [] => list (vs.set place v)
      | next :: steps => list (vs.set place (below ((vs[place]?).getD nothing) v next steps))

/-- Sets the value at a path. -/
def setPath (root : Value) (path : Path) (v : Value) : Value := setAt root path.first v path.steps

/-- Puts the entries of a file over a table. A key that is a path sets the value at the path. -/
def layer (root : Value) (file : Entries) : Value :=
  file.foldl (fun root e =>
    match Path.parse? e.1 with
    | some path => setPath root path e.2
    | none => put root e.1 e.2) root

end Value

end IndentTex.Settings
