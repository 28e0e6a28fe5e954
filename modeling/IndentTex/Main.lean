import IndentTex.CommandLine.Run

/-!
# The command line

Reads and writes the files that a run asks for.
-/

open IndentTex IndentTex.CommandLine

/-- What a run is told about a failed access. -/
def faultOf : IO.Error → PathFault
  | .noFileOrDirectory .. => .notFound
  | .inappropriateType .. => .isDirectory
  | .permissionDenied .. => .noAccess
  | _ => .notFound

/-- Reads the paths that a run may read. -/
def readPaths (paths : List Text) : IO (List (Text × Except PathFault Content)) :=
  paths.mapM fun path => do
    try
      let bytes ← IO.FS.readBinFile (String.ofList path)
      return (path, .ok bytes.toList)
    catch e => return (path, .error (faultOf e))

/-- The host that starts no processes. -/
def noProcesses : Interpreter.Host Empty where
  spawn _ _ _ := .error "processes cannot be started here".toList
  write _ process := process.elim
  readLine process := process.elim

/-- Runs the command line in the working directory. -/
def main (args : List String) : IO UInt32 := do
  match Request.parse? (args.map String.toList) with
  | none =>
    IO.eprintln "Usage: hltex [OPTIONS] <FILE>"
    return 2
  | some request =>
    let paths := match request with
      | .translate o => o.paths
      | _ => []
    let contents ← readPaths paths
    let files : Reading := {
      read := fun path => (contents.lookup path).getD (.error .notFound)
      isFile := fun path => ((contents.lookup path).bind Except.toOption).isSome }
    match run noProcesses files request with
    | .print output =>
      IO.print (String.ofList output)
      return 0
    | .fail message =>
      IO.eprintln (String.ofList message)
      return 1
    | .abort =>
      IO.eprintln (String.ofList abortMessage)
      return 101
    | .write path output =>
      try
        IO.FS.writeFile (String.ofList path) (String.ofList output)
        IO.println (String.ofList (writtenMessage path))
        return 0
      catch e =>
        IO.eprintln (String.ofList (unwrittenMessage path (faultOf e).message))
        return 1
