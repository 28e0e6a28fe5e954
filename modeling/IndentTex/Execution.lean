import IndentTex.Text.Basic

/-!
# Execution of code bodies

What the translator asks of code execution. A call hands over a body and may name an interpreter;
the answer is the output of the code or a failure. An executor answers calls one after the other
and may remember earlier ones in its state.
-/

namespace IndentTex

/-- Why a code body gave no output (`ExecutionFailure`). -/
inductive Failure where
  /-- There is nothing to execute code with. -/
  | unavailable
  /-- The interpreter could not be started. -/
  | spawn (reason : Text)
  /-- The interpreter broke off or answered nonsense. -/
  | crashed (reason : Text)
  /-- The executor does not know the interpreter asked for. -/
  | unsupported (interpreter : Text)
  /-- The code itself reported an error. -/
  | raised (error : Text)
  deriving DecidableEq, Repr

namespace Failure

/-- What the user is told about a failure. -/
def message : Failure → Text
  | unavailable => "No code executor is available for this translation".toList
  | spawn reason => "Failed to start the code executor: ".toList ++ reason
  | crashed reason => "Something went wrong executing this block: ".toList ++ reason
  | unsupported interpreter => "This executor cannot run `".toList ++ interpreter ++ "`".toList
  | raised error => "Execution failed: ".toList ++ error

end Failure

/-- A request to execute a code body, in the named interpreter or in the default one. -/
structure Call where
  interpreter : Option Text
  body : Text
  deriving DecidableEq, Repr

/-- Auxiliary files that code can read, by name in ascending order. -/
abbrev FileEnv := List (Text × Text)

namespace FileEnv

/-- The files with one more, which replaces a file of the same name. -/
def insert (name content : Text) : FileEnv → FileEnv
  | [] => [(name, content)]
  | f :: fs =>
    if name < f.1 then (name, content) :: f :: fs
    else if name = f.1 then (name, content) :: fs
    else f :: insert name content fs

/-- The content of a file. -/
def find? (files : FileEnv) (name : Text) : Option Text := files.lookup name

end FileEnv

/-- An executor with states of type `σ`: how it answers a call, and its state afterwards
(`BodyExecutor`). -/
structure Executor (σ : Type) where
  answer : Call → σ → Except Failure Text × σ

namespace Executor

/-- The executor that refuses every call (`UnavailableExecutor`). -/
def unavailable : Executor Unit where
  answer _ host := (.error .unavailable, host)

/-- An executor of a single interpreter, which refuses calls that name one. -/
def single {σ : Type} (run : Text → σ → Except Failure Text × σ) : Executor σ where
  answer call host :=
    match call.interpreter with
    | none => run call.body host
    | some i => (.error (.unsupported i), host)

end Executor

end IndentTex
