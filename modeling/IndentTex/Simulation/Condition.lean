import IndentTex.Simulation.Number

/-!
# Conditions

The conditions that the shell tests: comparisons, questions about texts and files, and their
combinations.
-/

namespace IndentTex.Simulation.Condition

/-- The kinds of words in a condition. -/
inductive Kind where
  /-- An operator before one operand. -/
  | unary
  /-- An operator between two operands. -/
  | binary
  | negation
  | conjunction
  | disjunction
  | opening
  | closing
  | operand
  /-- The end of the condition. -/
  | ending
  deriving DecidableEq, Repr

/-- The operators before one operand. -/
def unaryOperators : List Text :=
  ["-r", "-w", "-x", "-e", "-f", "-d", "-c", "-b", "-p", "-u", "-g", "-k", "-s", "-t", "-z", "-n",
    "-h", "-O", "-G", "-L", "-S"].map String.toList

/-- The operators between two operands. -/
def binaryOperators : List Text :=
  ["=", "!=", "<", ">", "-eq", "-ne", "-ge", "-gt", "-le", "-lt", "-nt", "-ot", "-ef"].map
    String.toList

/-- The kind of a word for itself. -/
def kindOf (w : Text) : Kind :=
  if unaryOperators.contains w then .unary
  else if binaryOperators.contains w then .binary
  else match String.ofList w with
    | "!" => .negation
    | "-a" => .conjunction
    | "-o" => .disjunction
    | "(" => .opening
    | ")" => .closing
    | _ => .operand

/-- The kind of the first of some words. An operator without operands is an operand itself. -/
def firstKind : List Text → Kind
  | [] => .ending
  | w :: ws =>
    match kindOf w, ws with
    | .unary, [] => .operand
    | .unary, [_] => .unary
    | .unary, v :: _ => if kindOf v = .binary then .operand else .unary
    | .opening, [] => .operand
    | k, _ => k

/-- What a comparison comes to; there is nothing if an operand should be a number and is none. -/
def compare? (op a b : Text) : Option Bool :=
  let numbers (f : Int → Int → Bool) : Option Bool := do
    return f (← Number.decimal? a) (← Number.decimal? b)
  match String.ofList op with
  | "=" => some (a == b)
  | "!=" => some (a != b)
  | "<" => some (a < b)
  | ">" => some (b < a)
  | "-eq" => numbers (· == ·)
  | "-ne" => numbers (· != ·)
  | "-lt" => numbers (· < ·)
  | "-le" => numbers (· ≤ ·)
  | "-gt" => numbers (· > ·)
  | "-ge" => numbers (· ≥ ·)
  | _ => some false

/-- What a question about an operand comes to. Questions about files are answered by `file`. -/
def ask (file : Text → Text → Bool) (op a : Text) : Bool :=
  match String.ofList op with
  | "-z" => a.isEmpty
  | "-n" => !a.isEmpty
  | "-t" => false
  | _ => file op a

mutual

/-- What alternatives come to, and the words from the last one that belongs to them on. -/
def anyOf? (file : Text → Text → Bool) : Nat → List Text → Option (Bool × List Text)
  | 0, _ => none
  | n + 1, ws =>
    match allOf? file n ws with
    | none => none
    | some (a, last) =>
      if firstKind last.tail = .disjunction then
        match anyOf? file n (last.drop 2) with
        | some (b, last) => some (a || b, last)
        | none => none
      else some (a, last)

/-- What joint conditions come to. -/
def allOf? (file : Text → Text → Bool) : Nat → List Text → Option (Bool × List Text)
  | 0, _ => none
  | n + 1, ws =>
    match perhapsNot? file n ws with
    | none => none
    | some (a, last) =>
      if firstKind last.tail = .conjunction then
        match allOf? file n (last.drop 2) with
        | some (b, last) => some (a && b, last)
        | none => none
      else some (a, last)

/-- What a condition with negations before it comes to. -/
def perhapsNot? (file : Text → Text → Bool) : Nat → List Text → Option (Bool × List Text)
  | 0, _ => none
  | n + 1, ws =>
    if firstKind ws = .negation then
      if ws.tail.isEmpty then some (true, ws)
      else (perhapsNot? file n ws.tail).map fun r => (!r.1, r.2)
    else single? file n ws

/-- What a single condition comes to. -/
def single? (file : Text → Text → Bool) : Nat → List Text → Option (Bool × List Text)
  | 0, _ => none
  | n + 1, ws =>
    match firstKind ws, ws with
    | .ending, ws => some (false, ws)
    | .opening, _ :: ws =>
      if firstKind ws = .closing then some (false, ws)
      else match anyOf? file n ws with
        | some (a, last) => if firstKind last.tail = .closing then some (a, last.tail) else none
        | none => none
    | .unary, op :: a :: rest => some (ask file op a, a :: rest)
    | .unary, _ => none
    | _, a :: op :: rest =>
      if firstKind (op :: rest) = .binary then
        match rest with
        | b :: _ => (compare? op a b).map (·, rest)
        | [] => none
      else some (!a.isEmpty, a :: op :: rest)
    | _, [a] => some (!a.isEmpty, [a])
    | _, [] => some (false, [])

end

/-- What a whole condition comes to, of which no word may be left. -/
def whole? (file : Text → Text → Bool) (ws : List Text) : Option Bool :=
  match anyOf? file (8 * ws.length + 8) ws with
  | some (a, last) => if last.length ≤ 1 then some a else none
  | none => none

/-- Whether a condition holds; there is no answer if it is malformed. Three and four words are read
in a way of their own, so that operands may look like operators. -/
def holds? (file : Text → Text → Bool) : List Text → Option Bool
  | [] => some false
  | [a, op, b] =>
    if kindOf op = .binary then compare? op a b
    else if a = ['('] && b = [')'] then whole? file [op]
    else if a = ['!'] then (whole? file [op, b]).map not
    else whole? file [a, op, b]
  | [a, b, c, d] =>
    if a = ['('] && d = [')'] then whole? file [b, c]
    else if a = ['!'] then (holds? file [b, c, d]).map not
    else whole? file [a, b, c, d]
  | ws => whole? file ws

end IndentTex.Simulation.Condition
