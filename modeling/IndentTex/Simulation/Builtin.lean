import IndentTex.Simulation.Condition
import IndentTex.Simulation.Field
import IndentTex.Simulation.Format

/-!
# Commands of the shell itself

The commands that change or ask the machine they run on.
-/

namespace IndentTex.Simulation

/-- Commands whose mistakes end the script, and before which assignments are for good. -/
def specialNames : List Text :=
  [":", ".", "break", "continue", "eval", "exec", "exit", "export", "local", "readonly", "return",
    "set", "shift", "times", "trap", "unset"].map String.toList

/-- The other commands of the shell itself. -/
def regularNames : List Text :=
  ["[", "alias", "bg", "cd", "command", "echo", "false", "fg", "getopts", "hash", "jobs", "kill",
    "printf", "pwd", "read", "test", "true", "type", "ulimit", "umask", "unalias", "wait"].map
    String.toList

/-- Words with a meaning of their own. -/
def reservedWords : List Text :=
  ["!", "\x7b", "\x7d", "case", "do", "done", "elif", "else", "esac", "fi", "for", "if", "in", "then",
    "until", "while"].map String.toList

/-- A number without a sign. -/
def count? (t : Text) : Option Nat :=
  if !t.isEmpty && t.all Char.isDigit then some (Number.ofDigits 10 t) else none

/-- The count that a first argument gives. There must be none or a number. -/
def countOf (args : List Text) (otherwise : Nat) : Sh Nat :=
  match args with
  | [] => return otherwise
  | a :: _ =>
    match count? a with
    | some k => return k
    | none => abort

/-- The name and perhaps the value in an argument. -/
def namedValue (a : Text) : Text × Option Text :=
  let name := a.takeWhile (· != '=')
  (name, if name.length < a.length then some (a.drop (name.length + 1)) else none)

/-- Marks variables and sets them if values are given. -/
def declare (mark : Variable → Variable) : List Text → Sh Unit
  | [] => setStatus 0
  | a :: args => do
    let (name, value) := namedValue a
    if !isName name then abort
    else
      match value with
      | some v => setVariable name v
      | none => pure ()
      modify fun m =>
        let old := (m.vars.lookup name).getD ⟨none, false, false⟩
        { m with vars := putVariable m.vars name (mark old) }
      declare mark args

/-- Makes variables local to the function that is running. -/
def declareLocal : List Text → Sh Unit
  | [] => setStatus 0
  | a :: args => do
    let (name, value) := namedValue a
    let m ← get
    match m.calls with
    | [] => abort
    | call :: calls =>
      if a = ['-'] then declareLocal args
      else if !isName name then abort
      else
        if !call.any (·.1 = name) then
          set { m with calls := ((name, m.vars.lookup name) :: call) :: calls }
        match value with
        | some v => setVariable name v
        | none => pure ()
        declareLocal args

/-- Removes variables. -/
def removeVariables : List Text → Sh Unit
  | [] => setStatus 0
  | name :: names => do
    if ((← get).vars.lookup name).any Variable.fixed then abort
    else
      modify fun m => { m with vars := m.vars.filter (·.1 ≠ name) }
      removeVariables names

/-- Sets or clears an option. -/
def Flags.put (f : Flags) (on : Bool) (letter : Char) : Flags :=
  match letter with
  | 'e' => { f with strict := on }
  | 'u' => { f with demanding := on }
  | 'f' => { f with noGlob := on }
  | _ => f

/-- The letters of options. -/
def optionLetters : Text := "aCEIVbefilmnpsuvx".toList

/-- The letter of an option with a long name. -/
def optionLetter? (name : Text) : Option Char :=
  List.lookup (String.ofList name) [("allexport", 'a'), ("errexit", 'e'), ("ignoreeof", 'I'),
    ("interactive", 'i'), ("monitor", 'm'), ("noclobber", 'C'), ("noexec", 'n'), ("noglob", 'f'),
    ("notify", 'b'), ("nounset", 'u'), ("stdin", 's'), ("verbose", 'v'), ("vi", 'V'), ("xtrace", 'x')]

/-- The options after arguments that set them, and the arguments left, if there are such. There is
nothing if an option is not known. -/
def Flags.read? (f : Flags) : List Text → Option (Flags × Option (List Text))
  | [] => some (f, none)
  | ['-', '-'] :: args => some (f, some args)
  | [['-', 'o']] => some (f, none)
  | ['-', 'o'] :: name :: args => (optionLetter? name).bind fun c => (f.put true c).read? args
  | ['+', 'o'] :: name :: args => (optionLetter? name).bind fun c => (f.put false c).read? args
  | (sign :: letters) :: args =>
    if sign == '-' || sign == '+' then
      if letters.all optionLetters.contains then
        (letters.foldl (fun f c => f.put (sign == '-') c) f).read? args
      else none
    else some (f, some ((sign :: letters) :: args))
  | args => some (f, some args)

/-- Sets options and parameters. -/
def setOptions (args : List Text) : Sh Unit := do
  match (← get).flags.read? args with
  | none => abort
  | some (flags, params) =>
    modify fun m => { m with flags := flags, params := params.getD m.params }
    setStatus 0

/-- Distributes fields over variables. -/
def assignFields : List Text → List (List Glyph) → Sh Unit
  | [], _ => return
  | name :: names, fields => do
    setVariable name (textOf (fields.headD []))
    assignFields names fields.tail

/-- Reads a line into variables. The last one takes the rest of the line. -/
def readVariables (raw : Bool) (names : List Text) : Sh Unit := do
  if names.isEmpty || !names.all isName then setStatus 2
  else
    let (line, complete) ← readLine 0 raw
    let gs : List Glyph := line.flatMap fun (c, isProtected) =>
      if isProtected then [.seam false, .char c true false] else [.char c false true]
    assignFields names (breakUp (← get).separators (some names.length) gs)
    setStatus (if complete then 0 else 1)

/-- The arguments of a command for reading after its options, and whether the line is read as it is.
There is nothing if an option is not known. -/
def readOptions? (raw : Bool) : List Text → Option (Bool × List Text)
  | [] => some (raw, [])
  | ['-', '-'] :: names => some (raw, names)
  | ['-', 'p'] :: _ :: args => readOptions? raw args
  | ('-' :: c :: letters) :: args =>
    if (c :: letters).all (· == 'r') then readOptions? true args else none
  | names => some (raw, names)

/-- What a question about a file comes to. -/
def Machine.fileHolds (m : Machine) (op path : Text) : Bool :=
  match m.place path with
  | .ok (.found _ node) =>
    match String.ofList op, node with
    | "-d", .directory => true
    | "-f", .file _ => true
    | "-f", .program => true
    | "-s", .file content => !content.isEmpty
    | "-s", .device _ => false
    | "-s", _ => true
    | "-x", .directory => true
    | "-x", .program => true
    | "-c", .device _ => true
    | op, _ => ["-e", "-r", "-w", "-O", "-G"].contains op
  | _ => false

/-- Tests a condition. -/
def test (args : List Text) : Sh Unit := do
  match Condition.holds? (← get).fileHolds args with
  | some true => setStatus 0
  | some false => setStatus 1
  | none => setStatus 2

/-- Prints by a format. -/
def printFormatted (args : List Text) : Sh Unit := do
  let args := if args.head? == some ['-', '-'] then args.tail else args
  match args with
  | [] => setStatus 2
  | f :: args =>
    if f.head? == some '-' && 1 < f.length then setStatus 2
    else
      let result := format f args
      print result.out result.status

/-- Whether the arguments of a command for killing ask for a signal that ends a script. -/
def isDeadly : List Text → Bool
  | ['-', 's'] :: name :: _ => name ≠ ['0']
  | a :: _ => a ≠ ['-', '0']
  | [] => false

/-- Sets what is to be run at the end. Other occasions never arise. -/
def setFarewell : List Text → Sh Unit
  | [] => setStatus 0
  | [_] => setStatus 0
  | action :: occasions => do
    if occasions.any fun o => o = ['0'] || o = "EXIT".toList then
      modify fun m => { m with farewell := if action = ['-'] then none else some action }
    setStatus 0

/-- Carries out a command of the shell itself that needs no other commands. Says whether there is
such a command. -/
def builtin (name : Text) (args : List Text) : Sh Bool := do
  let m ← get
  match String.ofList name with
  | ":" | "true" | "times" | "wait" | "hash" | "alias" | "unalias" | "bg" | "fg" | "jobs" =>
    setStatus 0
  | "false" => setStatus 1
  | "exit" =>
    setStatus (← countOf args m.status)
    throw .ended
  | "return" =>
    setStatus (← countOf args m.status)
    throw .leaveFunction
  | "break" =>
    let n := min (← countOf args 1) m.loops
    setStatus 0
    if args.head? == some ['0'] then abort
    else if 0 < n then throw (.leaveLoop n)
  | "continue" =>
    let n := min (← countOf args 1) m.loops
    setStatus 0
    if args.head? == some ['0'] then abort
    else if 0 < n then throw (.nextRound n)
  | "shift" =>
    let n ← countOf args 1
    if m.params.length < n then abort
    else
      set { m with params := m.params.drop n, status := 0 }
  | "set" => setOptions args
  | "unset" =>
    match args with
    | ['-', 'f'] :: names =>
      set { m with functions := m.functions.filter fun f => !names.contains f.1, status := 0 }
    | ['-', 'v'] :: names => removeVariables names
    | names => removeVariables names
  | "export" => declare (fun v => { v with exported := true }) (args.filter (· ≠ ['-', 'p']))
  | "readonly" => declare (fun v => { v with fixed := true }) (args.filter (· ≠ ['-', 'p']))
  | "local" => declareLocal args
  | "read" =>
    match readOptions? false args with
    | some (raw, names) => readVariables raw names
    | none => setStatus 2
  | "echo" => print (echo args) 0
  | "printf" => printFormatted args
  | "test" => test args
  | "[" => if args.getLast? == some [']'] then test args.dropLast else setStatus 2
  | "kill" =>
    if args.contains processNumber then
      if isDeadly args then throw .killed else setStatus 0
    else setStatus 1
  | "trap" => setFarewell args
  | "cd" =>
    match m.place (args.headD ['.']) with
    | .ok (.found _ .directory) => setStatus 0
    | _ => setStatus 2
  | "pwd" => print "/tmp\n".toList 0
  | "umask" => if args.isEmpty then print "0022\n".toList 0 else setStatus 0
  | "ulimit" => if args.isEmpty then print "unlimited\n".toList 0 else setStatus 0
  | _ => return false
  return true

end IndentTex.Simulation
