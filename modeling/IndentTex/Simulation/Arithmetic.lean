import IndentTex.Simulation.Number
import IndentTex.Simulation.Script

/-!
# Arithmetic

Arithmetic expressions of the shell, over 64-bit integers and variables.
-/

namespace IndentTex.Simulation.Arithmetic

/-- A part of a written expression. -/
inductive Part where
  | number (n : Int)
  | name (n : Text)
  | sign (s : String)
  deriving DecidableEq, Repr

/-- The signs of expressions, longer ones before their beginnings. -/
def signs : List String :=
  ["<<=", ">>=", "==", "!=", "<=", ">=", "&&", "||", "<<", ">>", "+=", "-=", "*=", "/=", "%=", "&=",
    "|=", "^=", "+", "-", "*", "/", "%", "<", ">", "=", "!", "~", "&", "|", "^", "?", ":", "(", ")"]

/-- The parts of an expression. -/
def parts? : Nat → Text → Option (List Part)
  | _, [] => some []
  | 0, _ => none
  | n + 1, c :: rest =>
    if c == ' ' || c == '\t' || c == '\n' then parts? n rest
    else if c.isDigit then
      match Number.unsigned? (c :: rest) with
      | some (k, rest) => (parts? n rest).map (.number (Number.clamp k) :: ·)
      | none => none
    else if isNameStart c then
      let name := c :: rest.takeWhile isNameChar
      (parts? n (rest.dropWhile isNameChar)).map (.name name :: ·)
    else
      match signs.findSome? fun s => (Text.dropStart? s.toList (c :: rest)).map (s, ·) with
      | some (s, rest) => (parts? n rest).map (.sign s :: ·)
      | none => none

/-- An expression. -/
inductive Expr where
  | number (n : Int)
  | var (name : Text)
  /-- A variable is set, by an operator on its value if one is given. -/
  | assign (name : Text) (op : Option String) (value : Expr)
  | unary (op : String) (a : Expr)
  | binary (op : String) (a b : Expr)
  | both (a b : Expr)
  | either (a b : Expr)
  | cond (test yes no : Expr)
  deriving Repr

/-- How strongly an operator with two operands binds. -/
def strength? (s : String) : Option Nat :=
  [(["||"], 1), (["&&"], 2), (["|"], 3), (["^"], 4), (["&"], 5), (["==", "!="], 6),
    (["<", "<=", ">", ">="], 7), (["<<", ">>"], 8), (["+", "-"], 9), (["*", "/", "%"], 10)].findSome?
    fun (names, k) => if names.contains s then some k else none

/-- The operator of a sign that sets a variable: none for a plain equals sign. -/
def assignment? (s : String) : Option (Option String) :=
  if s = "=" then some none
  else List.lookup s [("+=", some "+"), ("-=", some "-"), ("*=", some "*"), ("/=", some "/"),
    ("%=", some "%"), ("<<=", some "<<"), (">>=", some ">>"), ("&=", some "&"), ("|=", some "|"),
    ("^=", some "^")]

/-- Joins two operands by an operator. -/
def join (s : String) (a b : Expr) : Expr :=
  if s = "&&" then .both a b else if s = "||" then .either a b else .binary s a b

mutual

/-- An expression that may set a variable, and what follows it. -/
def outer? : Nat → List Part → Option (Expr × List Part)
  | 0, _ => none
  | n + 1, .name v :: .sign s :: ps =>
    match assignment? s with
    | some op => (outer? n ps).map fun r => (.assign v op r.1, r.2)
    | none => choice? n (.name v :: .sign s :: ps)
  | n + 1, ps => choice? n ps

/-- An expression that may choose between two others, and what follows it. -/
def choice? : Nat → List Part → Option (Expr × List Part)
  | 0, _ => none
  | n + 1, ps =>
    match chain? n 1 ps with
    | some (test, .sign "?" :: ps) =>
      match outer? n ps with
      | some (yes, .sign ":" :: ps) => (choice? n ps).map fun r => (.cond test yes r.1, r.2)
      | _ => none
    | r => r

/-- An expression whose operators bind at least as strongly as `least`, and what follows it. -/
def chain? : Nat → (least : Nat) → List Part → Option (Expr × List Part)
  | 0, _, _ => none
  | n + 1, least, ps =>
    match operand? n ps with
    | some (a, ps) => more? n least a ps
    | none => none

/-- Goes on with the operators after a first operand. -/
def more? : Nat → (least : Nat) → Expr → List Part → Option (Expr × List Part)
  | 0, _, _, _ => none
  | n + 1, least, a, .sign s :: ps =>
    match strength? s with
    | some k =>
      if least ≤ k then
        match chain? n (k + 1) ps with
        | some (b, ps) => more? n least (join s a b) ps
        | none => none
      else some (a, .sign s :: ps)
    | none => some (a, .sign s :: ps)
  | _ + 1, _, a, ps => some (a, ps)

/-- A number, a variable, an expression in parentheses, or a sign before one. -/
def operand? : Nat → List Part → Option (Expr × List Part)
  | 0, _ => none
  | n + 1, ps =>
    match ps with
    | .number k :: ps => some (.number k, ps)
    | .name v :: ps => some (.var v, ps)
    | .sign "(" :: ps =>
      match outer? n ps with
      | some (e, .sign ")" :: ps) => some (e, ps)
      | _ => none
    | .sign s :: ps =>
      if ["-", "+", "!", "~"].contains s then (operand? n ps).map fun r => (.unary s r.1, r.2)
      else none
    | [] => none

end

/-- The expression that a text stands for. -/
def parse? (t : Text) : Option Expr :=
  match parts? t.length t with
  | none => none
  | some ps =>
    match outer? (16 * ps.length + 16) ps with
    | some (e, []) => some e
    | _ => none

/-- One for true and zero for false. -/
def ofBool (b : Bool) : Int := if b then 1 else 0

/-- The bits of two 64-bit integers combined one by one. -/
def bitwise (f : UInt64 → UInt64 → UInt64) (a b : Int) : Int :=
  (f (Int64.ofInt a).toUInt64 (Int64.ofInt b).toUInt64).toInt64.toInt

/-- The result of an operator on two numbers; division by zero has none. -/
def combine? (op : String) (a b : Int) : Option Int :=
  match op with
  | "|" => some (bitwise (· ||| ·) a b)
  | "^" => some (bitwise (· ^^^ ·) a b)
  | "&" => some (bitwise (· &&& ·) a b)
  | "==" => some (ofBool (a == b))
  | "!=" => some (ofBool (a != b))
  | "<" => some (ofBool (a < b))
  | "<=" => some (ofBool (a ≤ b))
  | ">" => some (ofBool (a > b))
  | ">=" => some (ofBool (a ≥ b))
  | "<<" => some (Number.wrap (a * Nat.pow 2 (Int.emod b 64).toNat))
  | ">>" => some (Int.fdiv a (Nat.pow 2 (Int.emod b 64).toNat))
  | "+" => some (Number.wrap (a + b))
  | "-" => some (Number.wrap (a - b))
  | "*" => some (Number.wrap (a * b))
  | "/" => if b == 0 then none else some (Number.wrap (Int.tdiv a b))
  | "%" => if b == 0 then none else some (Int.tmod a b)
  | _ => none

/-- The result of an operator on one number. -/
def apply (op : String) (a : Int) : Int :=
  match op with
  | "-" => Number.wrap (-a)
  | "!" => ofBool (a == 0)
  | "~" => -a - 1
  | _ => a

/-- Variables that have been set, the latest first. -/
abbrev Changes := List (Text × Text)

/-- The value of an expression over the values of variables, and the variables that are set by it.
What is not needed for the value is not evaluated. -/
def Expr.value? (vars : Text → Text) : Expr → Changes → Option (Int × Changes)
  | number n, changes => some (n, changes)
  | var name, changes =>
    (Number.ofValue? ((changes.lookup name).getD (vars name))).map (·, changes)
  | assign name op e, changes => do
    let (b, changes) ← e.value? vars changes
    let a ← match op with
      | none => some b
      | some op =>
        (Number.ofValue? ((changes.lookup name).getD (vars name))).bind (combine? op · b)
    return (a, (name, Number.write a) :: changes)
  | unary op e, changes => do
    let (a, changes) ← e.value? vars changes
    return (apply op a, changes)
  | binary op e f, changes => do
    let (a, changes) ← e.value? vars changes
    let (b, changes) ← f.value? vars changes
    return (← combine? op a b, changes)
  | both e f, changes => do
    let (a, changes) ← e.value? vars changes
    if a == 0 then return (0, changes)
    else
      let (b, changes) ← f.value? vars changes
      return (ofBool (b != 0), changes)
  | either e f, changes => do
    let (a, changes) ← e.value? vars changes
    if a != 0 then return (1, changes)
    else
      let (b, changes) ← f.value? vars changes
      return (ofBool (b != 0), changes)
  | cond test yes no, changes => do
    let (a, changes) ← test.value? vars changes
    if a != 0 then yes.value? vars changes else no.value? vars changes

/-- The value of a written expression, and the variables that are set by it. -/
def evaluate? (vars : Text → Text) (t : Text) : Option (Int × Changes) :=
  (parse? t).bind fun e => e.value? vars []

end IndentTex.Simulation.Arithmetic
