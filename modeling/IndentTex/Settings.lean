import IndentTex.Interpreter.Session
import IndentTex.Settings.Layer
import IndentTex.Settings.Toml.Document

/-!
# Settings

The settings of the command line: where output goes, and whether and with what code is executed.
Layers of settings files are put over the defaults, and single values over these.
-/

namespace IndentTex

/-- The settings (`HltexConfig`). -/
structure Settings where
  /-- The extension of output files. -/
  extension : Text
  /-- Whether code is executed. -/
  enabled : Bool
  /-- The program that executes code. -/
  program : Text
  /-- The arguments of the program. -/
  args : List Text
  deriving DecidableEq, Repr

namespace Settings

/-- Why there are no settings. -/
inductive Fault where
  /-- A required file is missing. -/
  | missingFile (path : Text)
  /-- A required file does not hold text. -/
  | notText
  /-- A file cannot be read as settings. -/
  | unreadable (path : Text)
  /-- A path to a single value is malformed. -/
  | malformedPath (path : Text)
  /-- A value does not have the form that its setting needs. -/
  | unfit
  deriving DecidableEq, Repr

/-- What the user is told about a fault. -/
def Fault.message : Fault → Text
  | missingFile path => "configuration file \"".toList ++ path ++ "\" not found".toList
  | notText => "stream did not contain valid UTF-8".toList
  | unreadable path => "TOML parse error in ".toList ++ path
  | malformedPath path => "invalid path: ".toList ++ path
  | unfit => "invalid value".toList

/-- What there is of a settings file. -/
inductive Layer.Content where
  | missing
  | notText
  | text (t : Text)
  deriving DecidableEq, Repr

/-- A settings file: its path, its content, and whether it may be left out. -/
structure Layer where
  path : Text
  content : Layer.Content
  optional : Bool

/-- The defaults. -/
def base : Value :=
  .table
    [("output".toList, .table [("extension".toList, .string "tex".toList)]),
     ("pysplice".toList, .table
       [("enabled".toList, .boolean true), ("program".toList, .string "python3".toList),
        ("args".toList, .list [.string "-u".toList])])]

/-- Puts settings files over values, in order. A file that may be left out counts only if it holds
text. -/
def stack : Value → List Layer → Except Fault Value
  | root, [] => .ok root
  | root, l :: ls =>
    match l.content with
    | .missing => if l.optional then stack root ls else .error (.missingFile l.path)
    | .notText => if l.optional then stack root ls else .error .notText
    | .text t =>
      match Toml.parse? t with
      | none => .error (.unreadable l.path)
      | some entries => stack (root.layer entries) ls

/-- Reads the paths of single values. -/
def overrides : List (Text × Value) → Except Fault (List (Path × Value))
  | [] => .ok []
  | (path, v) :: rest =>
    match Path.parse? path with
    | none => .error (.malformedPath path)
    | some p => (overrides rest).map ((p, v) :: ·)

/-- The settings that values stand for. -/
def ofValue? (root : Value) : Option Settings := do
  let group (fields : List String) (name : String) (key : String) : Option Value :=
    (root.entries.lookup name.toList).bind fun v =>
      Value.field? (fields.map String.toList) key.toList v
  let output := group ["extension"] "output"
  let code := group ["enabled", "program", "args"] "pysplice"
  return {
    extension := ← (← output "extension").asText?
    enabled := ← (← code "enabled").asBoolean?
    program := ← (← code "program").asText?
    args := ← (← code "args").asTexts? }

/-- The settings from files and single values (`build`). Paths are read first, then the files, and
only the values that remain in the end must fit. -/
def load (layers : List Layer) (single : List (Text × Value)) : Except Fault Settings := do
  let single ← overrides single
  let root ← stack base layers
  match ofValue? (single.foldl (fun v s => v.setPath s.1 s.2) root) with
  | some settings => return settings
  | none => throw .unfit

/-- The executor for the settings: none if code is not executed (`executor_factory`). -/
def executor {π : Type} (s : Settings) (host : Interpreter.Host π) (files : FileEnv) :
    Executor (Interpreter.Sessions π) :=
  if s.enabled then Interpreter.executor host ⟨s.program, s.args, files, .json⟩
  else ⟨fun _ sessions => (.error .unavailable, sessions)⟩

end Settings

end IndentTex
