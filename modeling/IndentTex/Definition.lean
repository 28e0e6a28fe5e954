import IndentTex.Markup
import IndentTex.Text.Alphabetic
import IndentTex.Text.Blank

/-!
# Definitions

Commands and environments that produce their own output. A command works on the values of its
argument slots alone. An environment also gets a body, and it may ask for code to be executed: its
output is an `Expansion`, which says what to execute and how to go on with the answer.
-/

namespace IndentTex

/-- What an environment produces: a text, an error, or a call and what follows from its answer. -/
inductive Expansion where
  | text (output : Text)
  | error (error : Error)
  | execute (call : Call) (next : Except Failure Text → Expansion)

namespace Expansion

/-- Carries out an expansion with an executor. -/
def run {σ : Type} (executor : Executor σ) : Expansion → σ → Except Error Text × σ
  | text output, host => (.ok output, host)
  | error e, host => (.error e, host)
  | execute call next, host =>
    let (answer, host) := executor.answer call host
    (next answer).run executor host

/-- Executes a body and goes on with its output; a failure becomes an error. -/
def executing (interpreter : Option Text) (body : Text) (next : Text → Text) : Expansion :=
  .execute ⟨interpreter, body⟩ fun
    | .ok output => .text (next output)
    | .error failure => .error (.ofCause (.failed failure))

end Expansion

/-- A command that produces its own output. -/
structure Command where
  name : Text
  params : Params
  /-- The output for the values of the slots. -/
  generate : List (Option Text) → Except Error Text

/-- An environment that produces its own output. -/
structure Environment where
  name : Text
  params : Params
  /-- Whether the body is read literally. -/
  raw : Bool
  /-- The output for an indentation unit, a body and the values of the slots. -/
  generate : (unit body : Text) → List (Option Text) → Expansion

/-- The output of a command called with written arguments (`call`). -/
def Command.call (c : Command) (args : List Argument) : Except Error Text :=
  match Argument.resolve c.name c.params args with
  | .error cause => .error (.ofCause cause)
  | .ok values => c.generate values

/-- A body with `unit` put before each of its lines but the first; an empty line stays empty
(`indent_body`). -/
def indentBody (unit body : Text) : Text :=
  Text.joinLines ((Text.splitLines body).mapIdx fun i line =>
    if i = 0 || line.isEmpty then line else unit ++ line)

/-- A command or an environment. -/
inductive Definition where
  | command (c : Command)
  | environment (e : Environment)

namespace Definition

/-- The name that is defined. -/
def name : Definition → Text
  | command c => c.name
  | environment e => e.name

/-- The sort that a definition is not of, in words. -/
def otherSort : Definition → Text
  | command _ => "an environment".toList
  | environment _ => "a command".toList

/-- Whether a text can be the name of a control sequence: one character that is not a blank, or
several alphabetic ones (`is_control_name`). -/
def isControlName : Text → Bool
  | [] => false
  | [c] => !isBlank c
  | name => name.all isAlphabetic

/-- Whether a text can be the name of an environment: one or more alphabetic characters. -/
def isEnvironmentName (name : Text) : Bool := !name.isEmpty && name.all isAlphabetic

/-- Whether a definition has a name that fits its sort. -/
def hasValidName : Definition → Bool
  | command c => isControlName c.name
  | environment e => isEnvironmentName e.name

/-- A definition in words. -/
def describe : Definition → Text
  | command c =>
    "Command \x7b name: ".toList ++ c.name.quote ++ ", params: ".toList
      ++ c.params.shorthand.quote ++ " \x7d".toList
  | environment e =>
    "Environment \x7b name: ".toList ++ e.name.quote ++ ", params: ".toList
      ++ e.params.shorthand.quote
      ++ (if e.raw then ", raw: true \x7d" else ", raw: false \x7d").toList

end Definition

end IndentTex
