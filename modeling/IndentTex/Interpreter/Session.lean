import IndentTex.Execution
import IndentTex.Interpreter.Message

/-!
# Interpreter sessions

An executor that runs code in interpreters. Each interpreter is started when it is first called and
then kept, so that it remembers earlier bodies. Interpreters are told apart by the name of their
program, and those of different names know nothing of each other. Processes themselves are left
abstract: a `Host` says how they are started, written to and read from.
-/

namespace IndentTex.Interpreter

/-- A way to run processes whose states have type `π`. -/
structure Host (π : Type) where
  /-- Starts a program with arguments in a directory that holds the files. -/
  spawn : (program : Text) → (args : List Text) → FileEnv → Except Text π
  /-- Writes to the input of a process. -/
  write : Text → π → Except Text π
  /-- Reads a line of the output of a process, with its newline. It is empty at the end. -/
  readLine : π → Except Text Text × π

/-- Which interpreter to run if none is named, how to run interpreters, and what they are sent. -/
structure Config where
  program : Text
  args : List Text
  files : FileEnv
  format : Format

/-- The running interpreters, by program. -/
abbrev Sessions (π : Type) := List (Text × π)

namespace Sessions

variable {π : Type}

/-- The process of a program. -/
def find? (sessions : Sessions π) (program : Text) : Option π := sessions.lookup program

/-- The sessions without the one of a program. -/
def erase (sessions : Sessions π) (program : Text) : Sessions π :=
  sessions.filter (·.1 ≠ program)

/-- The sessions with the process of a program in its present state. -/
def put (sessions : Sessions π) (program : Text) (process : π) : Sessions π :=
  (program, process) :: sessions.erase program

end Sessions

/-- The code that makes a program answer requests (`PYTHON_DRIVER`). It reads request lines,
executes their code in one set of variables and writes response lines. -/
def servingCode : Text :=
  ("\nimport io, json, sys\n" ++
   "from contextlib import redirect_stdout\n" ++
   "\n" ++
   "_globals = \x7b\"__name__\": \"__pysplice__\"\x7d\n" ++
   "for _line in sys.stdin:\n" ++
   "    _request = json.loads(_line)\n" ++
   "    _buffer = io.StringIO()\n" ++
   "    try:\n" ++
   "        with redirect_stdout(_buffer):\n" ++
   "            exec(_request[\"code\"], _globals)\n" ++
   "        _result = \x7b\"output\": _buffer.getvalue(), \"error\": None\x7d\n" ++
   "    except Exception as e:\n" ++
   "        _result = \x7b\"output\": _buffer.getvalue(), " ++
   "\"error\": type(e).__name__ + \": \" + str(e)\x7d\n" ++
   "    sys.stdout.write(json.dumps(_result) + \"\\n\")\n" ++
   "    sys.stdout.flush()\n").toList

/-- Whether a text names a file in a directory itself: it is not empty, not the directory or its
parent, and has no separator. -/
def isFileName (name : Text) : Bool :=
  !name.isEmpty && name != ['.'] && name != ['.', '.'] && !name.contains '/'

/-- Why a file of the given name cannot be written into a directory. -/
def refusedFile? (name : Text) : Option Text :=
  if !isFileName name then some ("Invalid auxiliary file name `".toList ++ name ++ "`".toList)
  else if name.contains '\x00' then some "file name contained an unexpected NUL byte".toList
  else if 255 < name.byteSize then some "File name too long (os error 36)".toList
  else none

/-- Starts a program that answers requests (`start`). -/
def start {π : Type} (host : Host π) (config : Config) (program : Text) : Except Failure π :=
  match config.files.findSome? fun f => refusedFile? f.1 with
  | some reason => .error (.spawn reason)
  | none =>
    match host.spawn program (config.args ++ [['-', 'c'], servingCode]) config.files with
    | .ok process => .ok process
    | .error reason => .error (.spawn ("`".toList ++ program ++ "`: ".toList ++ reason))

/-- The answer that a line of output stands for. -/
def Format.answer (f : Format) (line : Text) : Except Failure Text :=
  match f.read line with
  | .error reason => .error (.crashed reason)
  | .ok ⟨_, some e⟩ => .error (.raised e)
  | .ok ⟨output, none⟩ => .ok output

/-- Sends a body to a running interpreter and reads its answer. No process is left if the output
has ended. -/
def exchange {π : Type} (host : Host π) (f : Format) (body : Text) (process : π) :
    Except Failure Text × Option π :=
  match host.write (f.request body) process with
  | .error reason => (.error (.crashed reason), some process)
  | .ok process =>
    match host.readLine process with
    | (.error reason, process) => (.error (.crashed reason), some process)
    | (.ok line, process) =>
      if line.isEmpty then (.error (.crashed "the interpreter exited".toList), none)
      else (f.answer line, some process)

/-- Executes a body in the interpreter of a program, which is started if it is not running (`run`).
-/
def execute {π : Type} (host : Host π) (config : Config) (program body : Text)
    (sessions : Sessions π) : Except Failure Text × Sessions π :=
  let running : Except Failure π := match sessions.find? program with
    | some process => .ok process
    | none => start host config program
  match running with
  | .error failure => (.error failure, sessions)
  | .ok process =>
    match exchange host config.format body process with
    | (answer, some process) => (answer, sessions.put program process)
    | (answer, none) => (answer, sessions.erase program)

/-- The executor that runs code in interpreters (`ProcessExecutor`). -/
def executor {π : Type} (host : Host π) (config : Config) : Executor (Sessions π) where
  answer call sessions :=
    execute host config (call.interpreter.getD config.program) call.body sessions

end IndentTex.Interpreter
