import IndentTex.Text.Basic

/-!
# Options of the command line

What the arguments of the command line ask for. Options may stand before and after the source file,
and after two dashes every argument is taken as it is.
-/

namespace IndentTex.CommandLine

/-- How to translate a file. -/
structure Options where
  /-- The source file. -/
  source : Text
  /-- Where to write the output instead of the default place. -/
  out : Option Text
  /-- Print the output instead of writing it. -/
  stdout : Bool
  /-- A settings file. -/
  config : Option Text
  /-- Auxiliary files: name and path. -/
  files : List (Text × Text)
  /-- Execute no code. -/
  noExec : Bool
  /-- Say what is being done. -/
  verbose : Bool
  deriving DecidableEq, Repr

/-- What the arguments ask for. -/
inductive Request where
  | translate (o : Options)
  | version
  | help
  deriving DecidableEq, Repr

/-- Options with a value. -/
inductive Valued where
  | out
  | config
  | file
  deriving DecidableEq, Repr

/-- Options without a value. -/
inductive Switch where
  | stdout
  | noExec
  | verbose
  | version
  | help
  deriving DecidableEq, Repr

/-- An option. -/
inductive Flag where
  | valued (v : Valued)
  | switch (s : Switch)
  deriving DecidableEq, Repr

/-- The option with a long name. -/
def Flag.ofLong? (name : Text) : Option Flag :=
  match String.ofList name with
  | "out" => some (.valued .out)
  | "config" => some (.valued .config)
  | "file" => some (.valued .file)
  | "stdout" => some (.switch .stdout)
  | "no-exec" => some (.switch .noExec)
  | "verbose" => some (.switch .verbose)
  | "version" => some (.switch .version)
  | "help" => some (.switch .help)
  | _ => none

/-- The option with a name of one letter. -/
def Flag.ofShort? (c : Char) : Option Flag :=
  match c with
  | 'o' => some (.valued .out)
  | 'c' => some (.valued .config)
  | 'v' => some (.switch .verbose)
  | 'V' => some (.switch .version)
  | 'h' => some (.switch .help)
  | _ => none

/-- What has been given so far. -/
structure Given where
  source : Option Text
  out : Option Text
  config : Option Text
  files : List (Text × Text)
  switches : List Switch

/-- The name and the path of an auxiliary file, written with an equals sign between them
(`parse_file_entry`). Neither may be empty. -/
def namedPath? (t : Text) : Option (Text × Text) :=
  let name := t.takeWhile (· != '=')
  let path := t.drop (name.length + 1)
  if name.isEmpty || path.isEmpty then none else some (name, path)

namespace Given

/-- Nothing yet. -/
def nothing : Given := ⟨none, none, none, [], []⟩

/-- Gives the source file, once. -/
def giveSource? (g : Given) (path : Text) : Option Given :=
  if path.isEmpty || g.source.isSome then none else some { g with source := some path }

/-- Gives an option its value. All but auxiliary files may be given once. -/
def giveValue? (g : Given) (v : Valued) (value : Text) : Option Given :=
  match v with
  | .out => if value.isEmpty || g.out.isSome then none else some { g with out := some value }
  | .config =>
    if value.isEmpty || g.config.isSome then none else some { g with config := some value }
  | .file => (namedPath? value).map fun f => { g with files := g.files ++ [f] }

/-- Gives an option without a value, once. -/
def giveSwitch? (g : Given) (s : Switch) : Option Given :=
  if g.switches.contains s then none else some { g with switches := s :: g.switches }

/-- What everything together asks for. There must be a source file, and the output cannot be both
printed and written to a given place. -/
def request? (g : Given) : Option Request := do
  let source ← g.source
  let stdout := g.switches.contains .stdout
  if stdout && g.out.isSome then none
  else
    let o : Options :=
      { source, out := g.out, stdout, config := g.config, files := g.files,
        noExec := g.switches.contains .noExec, verbose := g.switches.contains .verbose }
    return .translate o

end Given

/-- Whether an argument is an option, so that it cannot be the value of another one. -/
def isOption (t : Text) : Bool := t.head? == some '-' && 1 < t.length

/-- The effect of letters after a single dash: more options given, a request that needs nothing
else, or an option that takes its value from the next argument. -/
inductive Cluster where
  | given (g : Given)
  | answered (r : Request)
  | open (g : Given) (v : Valued)

/-- Reads letters after a single dash. The rest of the letters is the value of an option that takes
one, and an equals sign may stand before it. -/
def cluster? : Given → Text → Option Cluster
  | g, [] => some (.given g)
  | g, c :: cs =>
    match Flag.ofShort? c with
    | none => none
    | some (.switch .version) => some (.answered .version)
    | some (.switch .help) => some (.answered .help)
    | some (.switch s) => (g.giveSwitch? s).bind fun g => cluster? g cs
    | some (.valued v) =>
      match cs with
      | [] => some (.open g v)
      | '=' :: value => (g.giveValue? v value).map .given
      | value => (g.giveValue? v value).map .given

/-- Takes arguments as they are. -/
def plain? : Given → List Text → Option Request
  | g, [] => g.request?
  | g, a :: args => (g.giveSource? a).bind fun g => plain? g args

/-- Reads arguments. There is no request if they do not make sense together. -/
def parse? : Given → List Text → Option Request
  | g, [] => g.request?
  | g, a :: args =>
    let valued (g : Given) (v : Valued) : Option Request :=
      match args with
      | value :: args =>
        if isOption value then none else (g.giveValue? v value).bind fun g => parse? g args
      | [] => none
    match a with
    | ['-', '-'] => plain? g args
    | '-' :: '-' :: long =>
      let name := long.takeWhile (· != '=')
      let value? := if long.contains '=' then some (long.drop (name.length + 1)) else none
      match Flag.ofLong? name, value? with
      | some (.valued v), some value => (g.giveValue? v value).bind fun g => parse? g args
      | some (.valued v), none => valued g v
      | some (.switch .version), none => some .version
      | some (.switch .help), none => some .help
      | some (.switch s), none => (g.giveSwitch? s).bind fun g => parse? g args
      | _, _ => none
    | '-' :: c :: cs =>
      match cluster? g (c :: cs) with
      | none => none
      | some (.given g) => parse? g args
      | some (.answered r) => some r
      | some (.open g v) => valued g v
    | a => (g.giveSource? a).bind fun g => parse? g args

/-- What the arguments ask for. -/
def Request.parse? (args : List Text) : Option Request := CommandLine.parse? .nothing args

end IndentTex.CommandLine
