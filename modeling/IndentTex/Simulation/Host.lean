import IndentTex.Interpreter.Session
import IndentTex.Simulation.Run

/-!
# The shell as a host

Processes that run shell scripts, to try out the executor of interpreters with. A process is known by
what has been written to it, and what it has printed by then follows from that. Nothing else depends
on the simulation: the command line and all results are about any `Interpreter.Host`.
-/

namespace IndentTex.Simulation

/-- A process that runs a script. -/
structure ScriptRun where
  invocation : Invocation
  files : FileTree
  /-- What has been written to it, in portions. -/
  written : List Text
  /-- What it has printed. -/
  printed : Text
  /-- How much of that has been read. -/
  taken : Nat
  /-- Whether it has ended. -/
  ended : Bool

namespace ScriptRun

/-- How far a script is run. -/
def patience : Nat := 100000

/-- The variables that every script finds. -/
def environment : List (Text × Variable) :=
  [("OPTIND".toList, ⟨some ['1'], false, false⟩),
    ("PATH".toList, ⟨some "/usr/local/bin:/usr/bin:/bin".toList, true, false⟩),
    ("PWD".toList, ⟨some "/tmp".toList, true, false⟩)]

/-- The process as far as it can go. -/
def advance (p : ScriptRun) : ScriptRun :=
  let world : World := ⟨p.files, #[.input p.written true, .output, .null], []⟩
  let machine := p.invocation.machine world [(0, 0), (1, 1), (2, 2)] environment
  let run := completing (runScript patience p.invocation.script) (sayFarewell patience)
  match run machine with
  | .ok _ m => { p with printed := m.world.printed.reverse, ended := true }
  | .error .waiting m => { p with printed := m.world.printed.reverse, ended := false }
  | .error _ m => { p with printed := m.world.printed.reverse, ended := true }

end ScriptRun

/-- The directory in which programs are looked for. -/
def programDirectory : Text := "/usr/bin/".toList

/-- The place of a program. A name without a separator is looked for among the programs. -/
def programPlace (files : FileTree) (program : Text) : Except PathFault Place :=
  if program.contains '/' then files.place program
  else if program.isEmpty then .error .notFound
  else files.place (programDirectory ++ program)

/-- The names of the shell among the programs. -/
def shellNames : List (List Text) :=
  [["usr", "bin", "dash"], ["usr", "bin", "sh"]].map (·.map String.toList)

/-- A script that does nothing. Arguments that make no sense come to it, and so do programs that end
without an answer. -/
def idle : Invocation := ⟨[], [], [], ⟨false, false, false⟩⟩

/-- Starts a program. Nothing but programs can be started. -/
def spawn (program : Text) (args : List Text) (env : FileEnv) : Except Text ScriptRun :=
  let files : FileTree := ⟨env.map fun f => ([f.1], .ofText f.2)⟩
  let file? (path : Text) : Option Text :=
    (files.read (fileNameOf path)).toOption.map ofContent
  if program.contains '\x00' || args.any (·.contains '\x00') then
    .error "nul byte found in provided data".toList
  else match programPlace files program with
    | .error fault => .error fault.message
    | .ok (.vacant _) => .error PathFault.notFound.message
    | .ok (.found (.outer way) .program) =>
      let invocation := if shellNames.contains way then invocation? file? (args.map encode) else none
      .ok ⟨invocation.getD idle, files, [], [], 0, false⟩
    | .ok (.found _ _) => .error PathFault.noAccess.message

/-- Writes to a process. One that has ended after an earlier request takes nothing more. -/
def write (t : Text) (p : ScriptRun) : Except Text ScriptRun :=
  if p.ended then .error "Broken pipe (os error 32)".toList
  else .ok { p with written := p.written ++ [encode t] }.advance

/-- Reads the next line that a process has printed. -/
def readOutput (p : ScriptRun) : Except Text Text × ScriptRun :=
  let left := p.printed.drop p.taken
  let line := left.takeWhile (· != '\n')
  let line := if line.length < left.length then line ++ ['\n'] else line
  let p := { p with taken := p.taken + line.length }
  match decode? line with
  | some t => (.ok t, p)
  | none => (.error "stream did not contain valid UTF-8".toList, p)

/-- Shell processes as a host for interpreters. -/
def host : Interpreter.Host ScriptRun where
  spawn := spawn
  write := write
  readLine := readOutput

end IndentTex.Simulation
