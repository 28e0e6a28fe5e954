import IndentTex.CommandLine.Options
import IndentTex.CommandLine.OutputName
import IndentTex.FileTree
import IndentTex.Settings
import IndentTex.Translator

/-!
# Running the command line

A run reads the source file, the settings and the auxiliary files, translates, and prints or writes
the output. The first thing that fails ends it.
-/

namespace IndentTex.CommandLine

/-- What a run reads: the content of every path, or why it cannot be read, and which paths lead to
files. -/
structure Reading where
  read : Text → Except PathFault Content
  isFile : Text → Bool

/-- What a run comes to. -/
inductive Outcome where
  /-- A text to print. -/
  | print (output : Text)
  /-- A file to write. -/
  | write (path output : Text)
  /-- A message for the user. -/
  | fail (message : Text)
  /-- Nothing, because there is no name for the output. -/
  | abort
  deriving DecidableEq, Repr

/-- The settings file of a working directory. -/
def localConfig : Text := "hltex.toml".toList

/-- The path of a settings file with the usual extension, for a path that leads to no file. -/
def withToml? (path : Text) : Option Text :=
  (fileName? path).map fun _ => trimPath path ++ ".toml".toList

/-- A file that must hold text. -/
def readText (files : Reading) (path : Text) : Except Text Text :=
  let refused (fault : PathFault) : Except Text Text :=
    .error ("Error reading `".toList ++ path ++ "`: ".toList ++ fault.message)
  match files.read path with
  | .error fault => refused fault
  | .ok content =>
    match content.text? with
    | some t => .ok t
    | none => refused .notText

/-- The path of the settings file that is meant: the file at a path, or else the one with the usual
extension. -/
def configPath? (files : Reading) (path : Text) : Option Text :=
  if files.isFile path then some path else (withToml? path).filter files.isFile

/-- A settings file. -/
def configLayer (files : Reading) (optional : Bool) (path : Text) : Settings.Layer :=
  let content := match configPath? files path with
    | none => .missing
    | some found =>
      match files.read found with
      | .error _ => .notText
      | .ok content => content.text?.elim .notText .text
  ⟨path, content, optional⟩

/-- The settings for a run. -/
def settings (files : Reading) (o : Options) : Except Text Settings :=
  let layers := configLayer files true localConfig ::
    (o.config.map (configLayer files false)).toList
  let single := if o.noExec then [("pysplice.enabled".toList, Settings.Value.boolean false)] else []
  match Settings.load layers single with
  | .ok s => .ok s
  | .error fault => .error ("Configuration error: ".toList ++ fault.message)

/-- The auxiliary files of a run. -/
def auxiliaryFiles (files : Reading) : List (Text × Text) → FileEnv → Except Text FileEnv
  | [], env => .ok env
  | (name, path) :: rest, env => do
    auxiliaryFiles files rest (env.insert name (← readText files path))

/-- The paths that a run may read. -/
def Options.paths (o : Options) : List Text :=
  let configs := localConfig :: o.config.toList
  o.source :: configs ++ configs.filterMap withToml? ++ o.files.map Prod.snd

/-- Translates a file. Its code is run in processes of the host. -/
def translate {π : Type} (host : Interpreter.Host π) (files : Reading) (o : Options) :
    Except Text Outcome := do
  let source ← readText files o.source
  let settings ← settings files o
  let env ← auxiliaryFiles files o.files []
  let translator : Translator (Interpreter.Sessions π) :=
    { registry := .defaults, files := env, executor := settings.executor host env
      start := fun _ => [] }
  match translator.translate source with
  | .error e => throw (e.report source)
  | .ok output =>
    if o.stdout then return .print output
    else match o.out, defaultOutput? o.source settings.extension with
      | some path, _ => return .write path output
      | none, some path => return .write path output
      | none, none => return .abort

/-- What a request comes to. -/
def run {π : Type} (host : Interpreter.Host π) (files : Reading) (r : Request) : Outcome :=
  match r with
  | .version => .print "hltex 0.1.0\n".toList
  | .help => .print "Usage: hltex [OPTIONS] <FILE>\n".toList
  | .translate o =>
    match translate host files o with
    | .ok outcome => outcome
    | .error message => .fail message

/-- What the user is told about a written file. -/
def writtenMessage (path : Text) : Text := "Wrote output to `".toList ++ path ++ "`".toList

/-- What the user is told about a file that cannot be written. -/
def unwrittenMessage (path reason : Text) : Text :=
  "Error writing `".toList ++ path ++ "`: ".toList ++ reason

/-- What the user is told if there is no name for the output. -/
def abortMessage : Text := "extension cannot contain path separators".toList

/-- The end of a run: its exit code, what it prints, and the files afterwards. -/
structure Ending where
  code : Nat
  stdout : Content
  stderr : Text
  files : FileTree

/-- Runs the command line over a file tree. -/
def runIn {π : Type} (host : Interpreter.Host π) (t : FileTree) (args : List Text) : Ending :=
  match Request.parse? args with
  | none => ⟨2, [], "Usage: hltex [OPTIONS] <FILE>\n".toList, t⟩
  | some r =>
    match run host ⟨t.read, t.isFile⟩ r with
    | .print output => ⟨0, .ofText output, [], t⟩
    | .fail message => ⟨1, [], message ++ ['\n'], t⟩
    | .abort => ⟨101, [], abortMessage ++ ['\n'], t⟩
    | .write path output =>
      match t.write path (.ofText output) with
      | .ok (after, printed) => ⟨0, printed ++ .ofText (writtenMessage path ++ ['\n']), [], after⟩
      | .error fault => ⟨1, [], unwrittenMessage path fault.message ++ ['\n'], t⟩

end IndentTex.CommandLine
