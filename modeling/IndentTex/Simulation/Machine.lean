import IndentTex.Simulation.Bytes
import IndentTex.Simulation.Number
import IndentTex.Simulation.Parser

/-!
# The machine of a script

A script runs on a machine that holds its variables, its numbered streams, and the world that it
shares with the commands it starts: the files, what is open, and what has been printed. It waits when
it needs input that is not there yet.
-/

namespace IndentTex.Simulation

/-- Something that streams lead to. -/
inductive Opened where
  /-- Bytes to read, in the portions in which they came, and whether more may come. -/
  | input (portions : List Text) (isOpen : Bool)
  /-- A place in a file. -/
  | file (way : List Text) (position : Nat) (appends : Bool)
  /-- The output of the whole script. -/
  | output
  /-- Output that is kept for another command, the latest first. -/
  | kept (out : Text)
  /-- What is always empty and takes everything. -/
  | null
  /-- What never has room. -/
  | full
  deriving DecidableEq, Repr

/-- What a script shares with the commands that it starts. -/
structure World where
  files : FileTree
  opened : Array Opened
  /-- What has been printed, the latest first. -/
  printed : Text

/-- A variable. It may be marked before it has a value. -/
structure Variable where
  value : Option Text
  exported : Bool
  fixed : Bool
  deriving DecidableEq, Repr

/-- The options of a script. -/
structure Flags where
  /-- It ends when a command fails. -/
  strict : Bool
  /-- It ends when a parameter without a value is used. -/
  demanding : Bool
  /-- Names of files are not looked up. -/
  noGlob : Bool
  deriving DecidableEq, Repr

/-- The machine that a script runs on. -/
structure Machine where
  world : World
  /-- What the numbered streams lead to, as places among what is open. -/
  streams : List (Nat × Nat)
  vars : List (Text × Variable)
  /-- The variables to be restored at the end of each function that is running. -/
  calls : List (List (Text × Option Variable))
  functions : List (Text × Cmd)
  documents : Documents
  /-- The name of the script. -/
  self : Text
  params : List Text
  flags : Flags
  /-- The status of the last command, zero for success. -/
  status : Nat
  /-- The status of the last command whose output became part of a word. -/
  outputStatus : Nat
  /-- The number of loops that are running. -/
  loops : Nat
  /-- Whether a failure is allowed for. -/
  tested : Bool
  /-- What is to be run at the end. -/
  farewell : Option Text

/-- Why a command was left early. -/
inductive Interrupt where
  /-- The script has ended. -/
  | ended
  /-- The script waits for input. -/
  | waiting
  /-- The script has been ended from outside, together with all that runs for it. -/
  | killed
  | leaveLoop (count : Nat)
  | nextRound (count : Nat)
  | leaveFunction
  deriving DecidableEq, Repr

/-- Steps of a script. -/
abbrev Sh := EStateM Interrupt Machine

/-- Sets the status. -/
def setStatus (status : Nat) : Sh Unit := modify fun m => { m with status := status }

/-- Ends the script because of a mistake. -/
def abort {α : Type} : Sh α := do
  setStatus 2
  throw .ended

/-! ## Variables -/

/-- The number of every process. -/
def processNumber : Text := "4321".toList

/-- The value of a variable. -/
def Machine.value? (m : Machine) (name : Text) : Option Text :=
  (m.vars.lookup name).bind Variable.value

/-- The characters that separate fields. -/
def Machine.separators (m : Machine) : Text := (m.value? "IFS".toList).getD [' ', '\t', '\n']

/-- The character that joins parameters, if there is one. -/
def Machine.joint (m : Machine) : Text := m.separators.take 1

/-- The letters of the options. -/
def Flags.letters (f : Flags) : Text :=
  (if f.strict then ['e'] else []) ++ (if f.noGlob then ['f'] else []) ++
    (if f.demanding then ['u'] else [])

/-- The value of a parameter. -/
def Machine.parameter? (m : Machine) (name : Text) : Option Text :=
  match String.ofList name with
  | "0" => some m.self
  | "#" => some (Text.ofNat m.params.length)
  | "?" => some (Text.ofNat m.status)
  | "$" => some processNumber
  | "!" => none
  | "-" => some m.flags.letters
  | "@" | "*" => if m.params.isEmpty then none else some (Text.joinWith m.joint m.params)
  | _ =>
    if name.all Char.isDigit then
      let k := Number.ofDigits 10 name
      if k = 0 then some m.self else m.params[k - 1]?
    else m.value? name

/-- Variables with one of them changed. -/
def putVariable (vars : List (Text × Variable)) (name : Text) (v : Variable) :
    List (Text × Variable) :=
  (name, v) :: vars.filter (·.1 ≠ name)

/-- Changes a variable, unless it is fixed. -/
def changeVariable (name : Text) (change : Variable → Variable) : Sh Unit := do
  let old := ((← get).vars.lookup name).getD ⟨none, false, false⟩
  let new := change old
  if old.fixed && new != old then abort
  else modify fun m => { m with vars := putVariable m.vars name new }

/-- Sets a variable. -/
def setVariable (name value : Text) : Sh Unit := do
  if ((← get).vars.lookup name).any Variable.fixed then abort
  else changeVariable name fun v => { v with value := some value }

/-- Variables with one of them as it was before. -/
def restoreVariable (vars : List (Text × Variable)) (saved : Text × Option Variable) :
    List (Text × Variable) :=
  match saved.2 with
  | some v => putVariable vars saved.1 v
  | none => vars.filter (·.1 ≠ saved.1)

/-! ## Streams -/

/-- What a stream leads to. -/
def Machine.opened? (m : Machine) (stream : Nat) : Option Opened :=
  (m.streams.lookup stream).bind fun i => m.world.opened[i]?

/-- Changes what a stream leads to, for all streams that lead there. -/
def setOpened (stream : Nat) (o : Opened) : Sh Unit := modify fun m =>
  match m.streams.lookup stream with
  | some i => { m with world := { m.world with opened := m.world.opened.setIfInBounds i o } }
  | none => m

/-- Opens something new and gives its place. -/
def openNew (o : Opened) : Sh Nat := do
  let place := (← get).world.opened.size
  modify fun m => { m with world := { m.world with opened := m.world.opened.push o } }
  return place

/-- Lets a stream lead to a place, or to nothing. -/
def connect (stream : Nat) (place : Option Nat) : Sh Unit := modify fun m =>
  let others := m.streams.filter (·.1 ≠ stream)
  { m with streams := match place with
      | some i => (stream, i) :: others
      | none => others }

/-- The bytes of a file. -/
def Machine.bytesOf (m : Machine) (way : List Text) : Text :=
  ofContent ((m.world.files.files.lookup way).getD [])

/-- Replaces the bytes of a file. -/
def setBytes (way : List Text) (bytes : Text) : Sh Unit := modify fun m =>
  { m with world := { m.world with files := m.world.files.put way (toContent bytes) } }

/-- Prints to a stream. Says whether that was possible. -/
def printTo (stream : Nat) (out : Text) : Sh Bool := do
  match (← get).opened? stream with
  | some .output =>
    modify fun m => { m with world := { m.world with printed := out.reverse ++ m.world.printed } }
    return true
  | some (.kept before) =>
    setOpened stream (.kept (out.reverse ++ before))
    return true
  | some .null => return true
  | some .full => return out.isEmpty
  | some (.file way position appends) =>
    let before := (← get).bytesOf way
    let position := if appends then before.length else position
    let fill := List.replicate (position - before.length) '\x00'
    setBytes way (before.take position ++ fill ++ out ++ before.drop (position + out.length))
    setOpened stream (.file way (position + out.length) appends)
    return true
  | some (.input _ _) => return false
  | none => return false

/-- Prints, and sets the status by whether that was possible. -/
def print (out : Text) (status : Nat) : Sh Unit := do
  if ← printTo 1 out then setStatus status else setStatus (max status 1)

/-- The portions that can be read from a stream, and whether more may come. -/
def Machine.portions? (m : Machine) (stream : Nat) : Option (List Text × Bool) :=
  match m.opened? stream with
  | some (.input portions isOpen) => some (portions, isOpen)
  | some (.file way position _) => some ([(m.bytesOf way).drop position], false)
  | some .null => some ([], false)
  | _ => none

/-- Leaves the given portions to be read from a stream. -/
def leavePortions (stream : Nat) (portions : List Text) : Sh Unit := do
  match (← get).opened? stream with
  | some (.input _ isOpen) =>
    setOpened stream (.input (portions.filter fun p => !p.isEmpty) isOpen)
  | some (.file way _ appends) =>
    let left := portions.foldl (fun k p => k + p.length) 0
    setOpened stream (.file way (((← get).bytesOf way).length - left) appends)
  | _ => return

/-- Reads everything from a stream. Before the end of the input there is no end of reading, and
portions that have come by then are given to `meanwhile`. -/
def readAll (stream : Nat) (meanwhile : Text → Sh Unit) : Sh Text := do
  match (← get).portions? stream with
  | none => return []
  | some (portions, isOpen) =>
    leavePortions stream []
    if isOpen then
      meanwhile portions.flatten
      throw .waiting
    else return portions.flatten

/-- A character of a line, and whether a backslash protects it. -/
abbrev LineChar := Char × Bool

/-- The characters of a line up to its end, whether the end is there, and what follows. A backslash
protects the next character unless the line is read as it is. -/
def lineOf (raw : Bool) : Text → List LineChar × Bool × Text
  | [] => ([], false, [])
  | '\n' :: rest => ([], true, rest)
  | '\x00' :: rest => lineOf raw rest
  | '\\' :: c :: rest =>
    if raw then
      let (line, complete, left) := lineOf raw (c :: rest)
      (('\\', false) :: line, complete, left)
    else
      let (line, complete, left) := lineOf raw rest
      (if c == '\n' then line else (c, true) :: line, complete, left)
  | c :: rest =>
    let (line, complete, left) := lineOf raw rest
    (if c == '\\' && !raw then line else (c, false) :: line, complete, left)

/-- The line at the beginning of portions, after what has been looked at, whether its end is there,
and the portions left. -/
def firstLine (raw : Bool) (seen : Text) : List Text → List LineChar × Bool × List Text
  | [] =>
    let (line, complete, rest) := lineOf raw seen
    (line, complete, [rest])
  | p :: ps =>
    match lineOf raw seen with
    | (line, true, rest) => (line, true, rest :: p :: ps)
    | (_, false, _) => firstLine raw (seen ++ p) ps

/-- Reads a line from a stream, and says whether it had an end. -/
def readLine (stream : Nat) (raw : Bool) : Sh (List LineChar × Bool) := do
  match (← get).portions? stream with
  | none => return ([], false)
  | some (portions, isOpen) =>
    let (line, complete, rest) := firstLine raw [] portions
    if !complete && isOpen then throw .waiting
    else
      leavePortions stream rest
      return (line, complete)

/-! ## Files -/

/-- What a path leads to. -/
def Machine.place (m : Machine) (path : Text) : Except PathFault Place :=
  m.world.files.place (fileNameOf path)

/-- The bytes of the file at a path. -/
def Machine.file? (m : Machine) (path : Text) : Option Text :=
  (m.world.files.read (fileNameOf path)).toOption.map ofContent

/-- The streams that have a path. -/
def streamPaths : List (Text × Nat) :=
  [("/dev/stdin".toList, 0), ("/dev/stdout".toList, 1), ("/dev/stderr".toList, 2)]

/-- Opens a path and gives its place among what is open. -/
def openPath (opening : Opening) (path : Text) : Sh (Option Nat) := do
  let m ← get
  let fresh (o : Opened) : Sh (Option Nat) := do
    return some (← openNew o)
  match streamPaths.lookup path with
  | some stream => return m.streams.lookup stream
  | none =>
    let place := if opening = .input then m.place path else m.world.files.target (fileNameOf path)
    match place with
    | .error _ => return none
    | .ok (.found _ .directory) => if opening = .input then fresh .null else return none
    | .ok (.found _ .program) => if opening = .input then fresh .null else return none
    | .ok (.found _ (.device .full)) => fresh .full
    | .ok (.found _ (.device .terminal)) => return none
    | .ok (.found _ (.device _)) => fresh .null
    | .ok (.found (.inner way) (.file _)) =>
      if opening = .output then
        setBytes way []
      fresh (.file way 0 (opening = .append))
    | .ok (.vacant (.inner way)) =>
      if opening = .input then return none
      else
        setBytes way []
        fresh (.file way 0 (opening = .append))
    | .ok (.vacant (.outer _)) => if opening = .input then return none else fresh .null
    | .ok (.found (.outer _) (.file _)) => fresh .null

/-! ## Commands within commands -/

/-- Runs a command while a failure is allowed for. -/
def testing (run : Sh Unit) : Sh Unit := fun m =>
  match run { m with tested := true } with
  | .ok a r => .ok a { r with tested := m.tested }
  | .error e r => .error e { r with tested := m.tested }

/-- Runs a command with the streams as they are, and restores them afterwards. -/
def keepingStreams {α : Type} (run : Sh α) : Sh α := fun m =>
  match run m with
  | .ok a r => .ok a { r with streams := m.streams }
  | .error e r => .error e { r with streams := m.streams }

/-- Runs a command and then the farewell, which is not left out when the command is left early. -/
def completing (run farewell : Sh Unit) : Sh Unit := fun m =>
  match run m with
  | .ok _ r => farewell r
  | .error .waiting r => .error .waiting r
  | .error .killed r => .error .killed r
  | .error _ r => farewell r

/-- A machine after another one has run for it. Only the world and the status of that remain, and a
status is a byte then. -/
def Machine.after (m r : Machine) : Machine := { m with world := r.world, status := r.status % 256 }

/-- Runs a command on a machine of its own. -/
def apart (run : Sh Unit) : Sh Unit := fun m =>
  match run { m with farewell := none } with
  | .ok _ r => .ok () (m.after r)
  | .error .waiting r => .error .waiting (m.after r)
  | .error .killed r => .error .killed (m.after r)
  | .error _ r => .ok () (m.after r)

/-- Runs a command apart, and gives what it printed and whether it waits for input. -/
def collecting (run : Sh Unit) : Sh (Text × Bool) := do
  let place ← openNew (.kept [])
  let waits ← fun m =>
    match keepingStreams (do connect 1 (some place); apart run) m with
    | .ok _ r => .ok false r
    | .error .waiting r => .ok true r
    | .error e r => .error e r
  match (← get).world.opened[place]? with
  | some (.kept out) => return (out.reverse, waits)
  | _ => return ([], waits)

/-- A text without the newlines at its end. -/
def dropNewlines (t : Text) : Text := (t.reverse.dropWhile (· == '\n')).reverse

/-- What a command prints, without bytes that no value can hold. Its status is kept apart. -/
def capture (run : Sh Unit) : Sh Text := do
  let before := (← get).status
  let (out, waits) ← collecting run
  if waits then throw .waiting
  else
    modify fun m => { m with outputStatus := m.status, status := before }
    return dropNewlines (out.filter (· != '\x00'))

/-- Runs one command with its output as the input of another one. -/
def piped (first second : Sh Unit) : Sh Unit := do
  let (out, waits) ← collecting first
  let place ← openNew (.input [out] waits)
  keepingStreams do
    connect 0 (some place)
    apart second
  if waits then throw .waiting

/-- Runs a round of a loop and says whether to go on. -/
def loopRound (run : Sh Unit) : Sh Bool := fun m =>
  let back (r : Machine) : Machine := { r with loops := m.loops }
  match run { m with loops := m.loops + 1 } with
  | .ok _ r => .ok true (back r)
  | .error (.leaveLoop n) r => if 1 < n then .error (.leaveLoop (n - 1)) (back r) else .ok false (back r)
  | .error (.nextRound n) r => if 1 < n then .error (.nextRound (n - 1)) (back r) else .ok true (back r)
  | .error e r => .error e (back r)

end IndentTex.Simulation
